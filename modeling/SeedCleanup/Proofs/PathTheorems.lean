import SeedCleanup.Proofs.TextTheorems
import SeedCleanup.Text.Paths

/-!
# Names in paths

What it means, without a word on how it is found, that a text is the last element of a path
(`IsLastElement`), that it is what a path ends in behind trailing slashes aside (`EndsIn`), and that
it is the end of a path from the last dot of its last element on (`IsExtension`).
-/

namespace SeedCleanup

/-- A list can be cut at the last occurrence of each of its elements. -/
theorem exists_last_cut {α : Type} {x : α} {l : List α} (h : x ∈ l) :
    ∃ before after, l = before ++ x :: after ∧ x ∉ after := by
  obtain ⟨after, before, heq, hafter⟩ := List.eq_append_cons_of_mem (List.mem_reverse.2 h)
  refine ⟨before.reverse, after.reverse, ?_, mt List.mem_reverse.1 hafter⟩
  rw [← l.reverse_reverse, heq, List.reverse_append, List.reverse_cons, List.append_assoc]
  rfl

namespace Text

variable {path name : List Char}

/-! ## The last element -/

/-- What follows the last slash of a path; a path without a slash is its own last element. -/
inductive IsLastElement : List Char → List Char → Prop
  | whole {name : List Char} (h : '/' ∉ name) : IsLastElement name name
  | below (dir : List Char) {name : List Char} (h : '/' ∉ name) :
      IsLastElement (dir ++ '/' :: name) name

theorem lastElement_of_notMem (h : '/' ∉ name) : lastElement name = name := by
  rw [lastElement, pathElements, splitOnChar_of_notMem h]
  rfl

theorem lastElement_append_cons (dir : List Char) (h : '/' ∉ name) :
    lastElement (dir ++ '/' :: name) = name := by
  have hsplit : splitOnChar '/' (dir ++ '/' :: name) = splitOnChar '/' dir ++ [name] := by
    rw [splitOnChar_eq_splitOn, splitOnChar_eq_splitOn, ← splitOnChar_of_notMem h,
      splitOnChar_eq_splitOn]
    exact List.splitOnP_append_cons _ _ (beq_self_eq_true _)
  rw [lastElement, pathElements, hsplit, List.getLast?_concat]
  rfl

/-- Every path has one last element. -/
theorem isLastElement_iff : IsLastElement path name ↔ lastElement path = name := by
  constructor
  · intro h
    cases h with
    | whole h => exact lastElement_of_notMem h
    | below dir h => exact lastElement_append_cons dir h
  · rintro rfl
    by_cases h : '/' ∈ path
    · obtain ⟨dir, name, rfl, hname⟩ := exists_last_cut h
      rw [lastElement_append_cons dir hname]
      exact .below dir hname
    · rw [lastElement_of_notMem h]
      exact .whole h

/-! ## The last element without slashes at the end -/

/-- The last element of what is left of a path without the slashes at its end. -/
inductive EndsIn : List Char → List Char → Prop
  | intro {trimmed slashes name : List Char} (hslashes : ∀ c ∈ slashes, c = '/')
      (htrimmed : trimmed.getLast? ≠ some '/') (h : IsLastElement trimmed name) :
      EndsIn (trimmed ++ slashes) name

section

variable {p : Char → Bool}

/-- Dropping from the end stops at the last character that fails the test. -/
theorem eq_false_of_getLast?_dropEndWhile {s : List Char} {c : Char}
    (h : (dropEndWhile p s).getLast? = some c) : p c = false := by
  have hhead := List.head?_dropWhile_not p s.reverse
  rw [dropEndWhile, List.getLast?_reverse] at h
  rwa [h] at hhead

theorem exists_eq_dropEndWhile_append (p : Char → Bool) (s : List Char) :
    ∃ dropped, s = dropEndWhile p s ++ dropped ∧ ∀ c ∈ dropped, p c = true := by
  refine ⟨(s.reverse.takeWhile p).reverse, ?_, fun c hc => ?_⟩
  · rw [dropEndWhile, ← List.reverse_append, List.takeWhile_append_dropWhile, List.reverse_reverse]
  · exact List.all_eq_true.1 List.all_takeWhile c (List.mem_reverse.1 hc)

theorem dropEndWhile_append {kept dropped : List Char} (hdropped : ∀ c ∈ dropped, p c = true)
    (hkept : ∀ c, kept.getLast? = some c → p c = false) :
    dropEndWhile p (kept ++ dropped) = kept := by
  rw [dropEndWhile, List.reverse_append,
    List.dropWhile_append_of_pos fun c hc => hdropped c (List.mem_reverse.1 hc)]
  cases hrev : kept.reverse with
  | nil => rw [List.dropWhile_nil, ← hrev, List.reverse_reverse]
  | cons c rest =>
    have hlast : kept.getLast? = some c := by rw [← List.head?_reverse, hrev, List.head?_cons]
    rw [List.dropWhile_cons_of_neg (by simp [hkept c hlast]), ← hrev, List.reverse_reverse]

end

theorem endsIn_iff : EndsIn path name ↔ lastElement (dropEndWhile (· == '/') path) = name := by
  constructor
  · rintro ⟨hslashes, htrimmed, h⟩
    rw [dropEndWhile_append (fun c hc => beq_iff_eq.2 (hslashes c hc)), isLastElement_iff.1 h]
    rintro c hc
    refine beq_false_of_ne ?_
    rintro rfl
    exact htrimmed hc
  · intro h
    obtain ⟨slashes, heq, hslashes⟩ := exists_eq_dropEndWhile_append (· == '/') path
    rw [heq]
    refine .intro (fun c hc => beq_iff_eq.1 (hslashes c hc)) (fun hlast => ?_)
      (isLastElement_iff.2 h)
    cases eq_false_of_getLast?_dropEndWhile hlast

/-- Only a path that is empty or ends in a slash has an empty last element. -/
theorem IsLastElement.ne_nil (h : IsLastElement path name) (hpath : path ≠ [])
    (hlast : path.getLast? ≠ some '/') : name ≠ [] := by
  rintro rfl
  cases h with
  | whole _ => exact hpath rfl
  | below dir _ => exact hlast (List.getLast?_concat ..)

/-- The base name of a path is what the path ends in. A path of slashes alone ends in nothing, and
is its own base name. -/
theorem baseName_eq_iff_of_ne {path name : String} (hne : path ≠ name) :
    baseName path = name ↔ name ≠ "" ∧ EndsIn path.toList name.toList := by
  rw [endsIn_iff]
  unfold baseName
  simp only
  split
  · -- nothing but slashes: the base name is the path, and there is no last element
    rename_i hempty
    rw [List.isEmpty_iff.1 hempty]
    constructor
    · intro heq
      exact absurd heq hne
    · rintro ⟨hname, heq⟩
      exact absurd (String.toList_eq_nil_iff.1 heq.symm) hname
  · rename_i hempty
    rw [← String.toList_inj, String.toList_ofList, iff_and_self]
    intro heq hname
    have hlast := isLastElement_iff.2 heq
    refine hlast.ne_nil (mt List.isEmpty_iff.2 hempty) (fun h => ?_) (by rw [hname]; rfl)
    cases eq_false_of_getLast?_dropEndWhile h

/-! ## Extensions -/

/-- The end of a path from the last dot of its last element on. -/
inductive IsExtension : List Char → List Char → Prop
  | intro {path stem rest : List Char} (h : IsLastElement path (stem ++ '.' :: rest))
      (hrest : '.' ∉ rest) : IsExtension path ('.' :: rest)

theorem extension_of_isExtension {path : String} {ext : List Char}
    (h : IsExtension path.toList ext) : extension path = String.ofList ext := by
  cases h with
  | @intro stem rest h hrest =>
    have hreversed : ((stem ++ '.' :: rest).reverse.takeWhile (· != '.')).reverse = rest := by
      have hall : ∀ c ∈ rest.reverse, (c != '.') = true := by
        rintro c hc
        refine bne_iff_ne.2 ?_
        rintro rfl
        exact hrest (List.mem_reverse.1 hc)
      rw [List.reverse_append, List.reverse_cons, List.append_assoc,
        List.takeWhile_append_of_pos hall]
      simp
    unfold extension
    simp only [isLastElement_iff.1 h, hreversed]
    rw [if_pos (by simp)]

/-- The extension is empty when the last element has no dot. -/
theorem extension_cases (path : String) :
    extension path = "" ∨ IsExtension path.toList (extension path).toList := by
  by_cases h : '.' ∈ lastElement path.toList
  · obtain ⟨stem, rest, hcut, hrest⟩ := exists_last_cut h
    have hext : IsExtension path.toList ('.' :: rest) := .intro (isLastElement_iff.2 hcut) hrest
    rw [extension_of_isExtension hext, String.toList_ofList]
    exact .inr hext
  · left
    unfold extension
    simp only
    rw [if_neg (by simpa using h)]

end Text
end SeedCleanup
