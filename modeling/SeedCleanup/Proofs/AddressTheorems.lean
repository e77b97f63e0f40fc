import Mathlib.Data.List.TakeWhile
import SeedCleanup.Net.Wire
import SeedCleanup.Proofs.PathTheorems

/-!
# Paths of addresses

What stands at the end of the text of an address is the end of the path that is asked for, unless a
query or a fragment begins before it (`Wire.suffix_path_of_address?`). Taking an address apart drops
characters at the start of what is left of it, so that a plain end outlasts every step.
-/

namespace SeedCleanup

open Text

/-! ## Ends of texts -/

section

variable {α : Type} {p : α → Bool} {s ending : List α}

theorem suffix_dropWhile (h : ending <:+ s) (hkept : ending.dropWhile p = ending) :
    ending <:+ s.dropWhile p := by
  obtain ⟨start, rfl⟩ := h
  have hkeeps : ending <:+ ending.dropWhile p := by simp only [hkept, List.suffix_refl]
  rw [List.dropWhile_append]
  split
  · exact hkeeps
  · exact List.suffix_append _ _

theorem drop_length_takeWhile (p : α → Bool) (s : List α) :
    s.drop (s.takeWhile p).length = s.dropWhile p := by
  have h : ((s.takeWhile p) ++ s.dropWhile p).drop (s.takeWhile p).length = s.dropWhile p :=
    List.drop_left
  rwa [List.takeWhile_append_dropWhile] at h

end

namespace Text

variable {separator : Char} {s ending before after : List Char}

theorem dropWhile_bne_of_notMem (h : separator ∉ s) : s.dropWhile (· != separator) = [] := by
  refine List.dropWhile_eq_nil_iff.2 fun c hc => bne_iff_ne.2 ?_
  rintro rfl
  exact h hc

theorem cutFirst?_of_notMem (h : separator ∉ s) : cutFirst? separator s = none := by
  rw [cutFirst?, dropWhile_bne_of_notMem h]

theorem dropWhile_of_cutFirst? (h : cutFirst? separator s = some (before, after)) :
    ∃ c, s.dropWhile (· != separator) = c :: after := by
  unfold cutFirst? at h
  split at h
  · cases h
  · rename_i c rest hrest
    cases h
    exact ⟨c, hrest⟩

/-- An end without the separator stays the end of what is behind the first cut. -/
theorem suffix_of_cutFirst? (h : cutFirst? separator s = some (before, after))
    (hending : ending <:+ s) (hnot : separator ∉ ending) : ending <:+ after := by
  obtain ⟨c, hdrop⟩ := dropWhile_of_cutFirst? h
  obtain ⟨start, rfl⟩ := hending
  rw [List.dropWhile_append, dropWhile_bne_of_notMem hnot] at hdrop
  cases hstart : start.dropWhile (· != separator) with
  | nil =>
    rw [hstart] at hdrop
    cases hdrop
  | cons d rest =>
    rw [hstart] at hdrop
    obtain ⟨-, rfl⟩ := List.cons.inj hdrop
    exact List.suffix_append _ _

theorem subset_of_cutFirst? (h : cutFirst? separator s = some (before, after)) : after ⊆ s := by
  obtain ⟨c, hdrop⟩ := dropWhile_of_cutFirst? h
  intro d hd
  refine (List.dropWhile_sublist (· != separator)).mem ?_
  rw [hdrop]
  exact List.mem_cons_of_mem _ hd

end Text

namespace Url

/-! ## Names at the end of a path -/

/-- The characters of plain names, which stand for themselves everywhere in an address. -/
def plainChars : List Char := "abcdefghijklmnopqrstuvwxyz0123456789".toList

theorem forall_eq_of_all {chars : List Char} {p : Char → Bool} {b : Bool}
    (h : (chars.all fun c => p c == b) = true) : ∀ c ∈ chars, p c = b :=
  fun c hc => eq_of_beq (List.all_eq_true.1 h c hc)

/-- A plain name. -/
structure IsName (name : List Char) : Prop where
  ne_nil : name ≠ []
  plain : name ⊆ plainChars

namespace IsName

variable {name : List Char} (h : IsName name)
include h

theorem encode_eq : Percent.encode isPathChar name = name := by
  have hplain : ∀ c ∈ plainChars, isPathChar c = true := forall_eq_of_all (by decide)
  have heach : ∀ c ∈ name,
      (if isPathChar c then [c] else (utf8 [c]).flatMap Percent.escape) = [c] :=
    fun c hc => if_pos (hplain c (h.plain hc))
  rw [Percent.encode, List.flatMap_def, List.map_congr_left heach, ← List.flatMap_def,
    List.flatMap_singleton']

/-- Dots begin with a dot or a percent sign, in which no plain name begins. -/
theorem isDot_eq : isDot name = false ∧ isTwoDots name = false := by
  obtain ⟨c, rest, rfl⟩ := List.exists_cons_of_ne_nil h.ne_nil
  have hc : c ∈ plainChars := h.plain List.mem_cons_self
  have hdot : (c.toLower == '.') = false :=
    forall_eq_of_all (p := fun c => c.toLower == '.') (by decide) c hc
  have hpercent : (c.toLower == '%') = false :=
    forall_eq_of_all (p := fun c => c.toLower == '%') (by decide) c hc
  rw [beq_eq_false_iff_ne] at hdot hpercent
  constructor
  · simp [isDot, hdot, hpercent]
  · simp [isTwoDots, ← String.toList_inj, hdot, hpercent]

theorem splitBy_eq {p : Char → Bool} (hp : ∀ c ∈ plainChars, p c = false) (s : List Char) {c : Char}
    (hc : p c = true) : splitBy p (s ++ c :: name) = splitBy p s ++ [name] := by
  rw [splitBy_eq_splitOnP, splitBy_eq_splitOnP, List.splitOnP_append_cons _ _ hc,
    List.splitOnP_eq_singleton fun d hd => hp d (h.plain hd)]

theorem dropWhile_append_eq (s : List Char) :
    (name ++ s).dropWhile (fun c => c == '/' || c == '\\') = name ++ s := by
  obtain ⟨c, rest, rfl⟩ := List.exists_cons_of_ne_nil h.ne_nil
  have hall : ∀ c ∈ plainChars, (c == '/' || c == '\\') = false := forall_eq_of_all (by decide)
  exact List.dropWhile_cons_of_neg (by simp [hall c (h.plain List.mem_cons_self)])

/-- A plain name at the end is not followed anywhere. -/
theorem exists_follow_eq (parts read : List (List Char)) :
    ∃ kept, follow read (parts ++ [name]) = kept ++ [name] := by
  obtain ⟨hdot, htwo⟩ := h.isDot_eq
  induction parts generalizing read with
  | nil =>
    refine ⟨read.reverse, ?_⟩
    simp [follow, hdot, htwo, h.encode_eq]
  | cons part rest ih =>
    rw [List.cons_append, follow]
    split
    · exact ih _
    · split
      · exact ih _
      · exact ih _

omit h in
theorem suffix_intercalate (kept : List (List Char)) :
    '/' :: name <:+ '/' :: List.intercalate ['/'] (kept ++ [name]) := by
  induction kept with
  | nil => simp [List.intercalate]
  | cons part rest ih =>
    obtain ⟨next, others, heq⟩ := List.exists_cons_of_ne_nil
      (List.append_ne_nil_of_right_ne_nil rest (List.cons_ne_nil name []))
    rw [heq] at ih
    rw [List.cons_append, heq]
    refine ih.trans ?_
    exact ⟨'/' :: part, by simp [List.intercalate]⟩

theorem suffix_rooted {s : List Char} (hs : '/' :: name <:+ s) (known : Bool) :
    '/' :: name <:+ rooted known s := by
  obtain ⟨start, rfl⟩ := hs
  have hslash : ∀ c ∈ plainChars, (c == '/' || (known && c == '\\')) = false :=
    forall_eq_of_all (by cases known <;> decide)
  obtain ⟨kept, hkept⟩ := h.exists_follow_eq
    (splitBy (fun c => c == '/' || (known && c == '\\')) start) []
  have hsplit := h.splitBy_eq hslash start (c := '/') rfl
  rw [rooted]
  simp only [hsplit, hkept]
  exact suffix_intercalate kept

end IsName

/-! ## The path of an address -/

/-- Behind the host of an address is what begins with the first character that ends a host. -/
theorem exists_withTail_of_afterSlashes? {scheme : String} {known : Bool} {usual : Option Nat}
    {s : List Char} {u : Url} (h : afterSlashes? scheme known usual s = some u) :
    ∃ v : Url, v.scheme = scheme ∧ u = v.withTail known
      (s.dropWhile fun c => !(c == '/' || c == '?' || c == '#' || (known && c == '\\'))) := by
  simp only [afterSlashes?, drop_length_takeWhile] at h
  cases known with
  | true =>
    obtain ⟨host, -, h⟩ := Option.bind_eq_some_iff.1 h
    split at h
    · cases h
    · obtain ⟨port, -, h⟩ := Option.bind_eq_some_iff.1 h
      exact ⟨_, rfl, (Option.some.inj h).symm⟩
  | false =>
    obtain ⟨host, -, h⟩ := Option.bind_eq_some_iff.1 h
    split at h
    · cases h
    · obtain ⟨port, -, h⟩ := Option.bind_eq_some_iff.1 h
      exact ⟨_, rfl, (Option.some.inj h).symm⟩

theorem scheme_withTail (u : Url) (known : Bool) (s : List Char) :
    (u.withTail known s).scheme = u.scheme := rfl

theorem scheme_file? {s : List Char} {u : Url} (h : file? s = some u) : u.scheme = "file" := by
  unfold file? at h
  dsimp only at h
  split at h
  · split at h
    · split at h
      · obtain ⟨name, -, h⟩ := Option.bind_eq_some_iff.1 h
        rw [← Option.some.inj h, scheme_withTail]
      · obtain ⟨name, -, h⟩ := Option.bind_eq_some_iff.1 h
        rw [← Option.some.inj h, scheme_withTail]
    · rw [← Option.some.inj h, scheme_withTail]
  · rw [← Option.some.inj h, scheme_withTail]

theorem scheme_withoutHost (scheme : String) (s : List Char) :
    (withoutHost scheme s).scheme = scheme := by
  unfold withoutHost
  split <;> rfl

section

variable {name more s : List Char} (h : IsName name)
include h

/-- Where no query and no fragment begins, what is behind the host ends as the path does. -/
theorem suffix_path_withTail (u : Url) (known : Bool) (hquery : '?' ∉ s) (hfragment : '#' ∉ s)
    (hs : '/' :: more ++ '/' :: name <:+ s) : '/' :: name <:+ (u.withTail known s).path.toList := by
  have htail : tailParts s = (s, none, none) := by
    simp only [tailParts, cutFirst?_of_notMem hfragment, cutFirst?_of_notMem hquery]
  obtain ⟨c, rest, rfl⟩ := List.exists_cons_of_ne_nil
    (List.ne_nil_of_mem (hs.mem List.mem_cons_self))
  have hend : '/' :: name <:+ rest := by
    have hrest : more ++ '/' :: name <:+ rest := by
      obtain heq | hrest := List.suffix_cons_iff.1 hs
      · obtain ⟨-, rfl⟩ := List.cons.inj heq
        exact List.suffix_refl _
      · exact (List.suffix_cons _ _).trans hrest
    exact (List.suffix_append _ _).trans hrest
  simp only [withTail, htail, String.toList_ofList]
  split
  · exact h.suffix_rooted hend known
  · exact h.suffix_rooted (hend.trans (List.suffix_cons _ _)) known

/-- The slash in front of what is at the end is behind the host. -/
theorem suffix_path_afterSlashes? {scheme : String} {known : Bool} {usual : Option Nat} {u : Url}
    (hu : afterSlashes? scheme known usual s = some u) (hquery : '?' ∉ s) (hfragment : '#' ∉ s)
    (hs : '/' :: more ++ '/' :: name <:+ s) : '/' :: name <:+ u.path.toList := by
  obtain ⟨v, -, rfl⟩ := exists_withTail_of_afterSlashes? hu
  have hsub := List.dropWhile_sublist (l := s)
    fun c => !(c == '/' || c == '?' || c == '#' || (known && c == '\\'))
  refine suffix_path_withTail h v known (fun hc => hquery (hsub.mem hc))
    (fun hc => hfragment (hsub.mem hc)) (suffix_dropWhile hs ?_)
  exact List.dropWhile_cons_of_neg (by simp)

end

/-- Nothing of a plain end is a blank. -/
theorem suffix_cleaned {s ending : List Char} (h : ending <:+ s) (hne : ending ≠ [])
    (hplain : ending ⊆ '/' :: plainChars) : ending <:+ cleaned s := by
  have hvisible : ∀ c ∈ '/' :: plainChars, decide (c.toNat ≤ 0x20) = false :=
    forall_eq_of_all (by decide)
  have hkeeps : ∀ c ∈ '/' :: plainChars, (!(c == '\t' || c == '\n' || c == '\r')) = true :=
    forall_eq_of_all (by decide)
  have hedge : ∀ c ∈ ending, decide (c.toNat ≤ 0x20) = false :=
    fun c hc => hvisible c (hplain hc)
  have hdrop : ending <:+ s.dropWhile fun c => decide (c.toNat ≤ 0x20) := by
    refine suffix_dropWhile h ?_
    obtain ⟨c, rest, rfl⟩ := List.exists_cons_of_ne_nil hne
    exact List.dropWhile_cons_of_neg (by simp [hedge c List.mem_cons_self])
  have hkept : dropEndWhile (fun c => decide (c.toNat ≤ 0x20))
      (s.dropWhile fun c => decide (c.toNat ≤ 0x20))
        = s.dropWhile fun c => decide (c.toNat ≤ 0x20) := by
    obtain ⟨start, heq⟩ := hdrop
    have hnothing : dropEndWhile (fun c => decide (c.toNat ≤ 0x20)) (start ++ ending ++ [])
        = start ++ ending := by
      refine dropEndWhile_append (fun _ hc => absurd hc List.not_mem_nil) fun c hc => ?_
      rw [List.getLast?_append, List.getLast?_eq_some_getLast hne, Option.some_or] at hc
      obtain rfl := Option.some.inj hc
      exact hedge _ (List.getLast_mem hne)
    rwa [List.append_nil, heq] at hnothing
  have hfilter := hdrop.filter fun c => !(c == '\t' || c == '\n' || c == '\r')
  rwa [List.filter_eq_self.2 fun c hc => hkeeps c (hplain hc), ← hkept] at hfilter

theorem cleaned_sublist (s : List Char) : (cleaned s).Sublist s := by
  have hend : (dropEndWhile (fun c => decide (c.toNat ≤ 0x20))
      (s.dropWhile fun c => decide (c.toNat ≤ 0x20))).Sublist
        (s.dropWhile fun c => decide (c.toNat ≤ 0x20)) := by
    rw [dropEndWhile, ← List.reverse_sublist, List.reverse_reverse]
    exact List.dropWhile_sublist _
  exact List.filter_sublist.trans (hend.trans (List.dropWhile_sublist _))

/-- An endpoint of plain names, and the last of them. -/
inductive IsEndpoint : List Char → List Char → Prop
  | intro {first more name : List Char} (hfirst : IsName first) (hmore : more ⊆ '/' :: plainChars)
      (hname : IsName name) : IsEndpoint ('/' :: first ++ ('/' :: more ++ '/' :: name)) name

theorem IsEndpoint.subset {endpoint name : List Char} (h : IsEndpoint endpoint name) :
    endpoint ⊆ '/' :: plainChars := by
  obtain ⟨hfirst, hmore, hname⟩ := h
  have hnames {l : List Char} (hl : IsName l) : l ⊆ '/' :: plainChars :=
    fun c hc => List.mem_cons_of_mem _ (hl.plain hc)
  refine List.append_subset.2 ⟨List.cons_subset.2 ⟨List.mem_cons_self, hnames hfirst⟩, ?_⟩
  refine List.append_subset.2 ⟨List.cons_subset.2 ⟨List.mem_cons_self, hmore⟩, ?_⟩
  exact List.cons_subset.2 ⟨List.mem_cons_self, hnames hname⟩

theorem IsEndpoint.plain {endpoint name : List Char} (h : IsEndpoint endpoint name) :
    name ⊆ plainChars := by
  obtain ⟨-, -, hname⟩ := h
  exact hname.plain

theorem lookup_knownSchemes_ne_none {scheme : String} (h : scheme = "http" ∨ scheme = "https") :
    knownSchemes.lookup scheme ≠ none := by
  obtain rfl | rfl := h <;> decide

/-- An address on the net with an endpoint at its end, in front of which neither a query nor a
fragment begins, has a path that ends in the last name of the endpoint. -/
theorem suffix_path_of_parse {text : String} {endpoint name : List Char} {u : Url}
    (hu : parse text = some u) (hscheme : u.scheme = "http" ∨ u.scheme = "https")
    (hquery : '?' ∉ text.toList) (hfragment : '#' ∉ text.toList) (h : IsEndpoint endpoint name)
    (hend : endpoint <:+ text.toList) : '/' :: name <:+ u.path.toList := by
  obtain ⟨⟨before, rest⟩, hcut, hrest⟩ := Option.bind_eq_some_iff.1 hu
  dsimp only at hrest
  split at hrest
  · cases hrest
  cases hfound : knownSchemes.lookup (String.ofList (before.map Char.toLower)) with
  | none =>
    -- the scheme is another one
    refine absurd hfound (lookup_knownSchemes_ne_none ?_)
    rw [hfound] at hrest
    split at hrest
    · rename_i heq
      cases heq
    · rename_i heq
      cases heq
    · obtain ⟨v, hv, rfl⟩ := exists_withTail_of_afterSlashes? hrest
      rwa [scheme_withTail, hv] at hscheme
    · rwa [← Option.some.inj hrest, scheme_withoutHost] at hscheme
  | some usual =>
    rw [hfound] at hrest
    cases usual with
    | none =>
      rw [scheme_file? hrest] at hscheme
      exact absurd hscheme (by decide)
    | some port =>
      have hplain := h.subset
      have hclean := suffix_cleaned hend (by cases h; simp) hplain
      have hbehind := suffix_of_cutFirst? hcut hclean fun hc => absurd (hplain hc) (by decide)
      have hsub : rest.dropWhile (fun c => c == '/' || c == '\\') ⊆ text.toList := fun c hc =>
        (cleaned_sublist _).mem (subset_of_cutFirst? hcut ((List.dropWhile_sublist _).mem hc))
      obtain ⟨hfirst, hmore, hname⟩ := h
      have hslashes := suffix_dropWhile (p := fun c => c == '/' || c == '\\')
        ((List.suffix_cons _ _).trans hbehind) (hfirst.dropWhile_append_eq _)
      exact suffix_path_afterSlashes? hname hrest (fun hc => hquery (hsub hc))
        (fun hc => hfragment (hsub hc)) ((List.suffix_append _ _).trans hslashes)

theorem addQuery_eq (u : Url) (pairs : List (String × String)) :
    (u.addQuery pairs).scheme = u.scheme ∧ (u.addQuery pairs).path = u.path := by
  unfold addQuery
  split
  · exact ⟨rfl, rfl⟩
  · split <;> exact ⟨rfl, rfl⟩

end Url

/-- A request to an endpoint asks for a path that ends in the last name of the endpoint. -/
theorem Wire.suffix_path_of_address? {r : Outgoing} {u : Url} (hu : Wire.address? r = .ok u)
    {endpoint name : List Char} (hquery : '?' ∉ r.url.toList) (hfragment : '#' ∉ r.url.toList)
    (h : Url.IsEndpoint endpoint name) (hend : endpoint <:+ r.url.toList) :
    '/' :: name <:+ u.path.toList := by
  unfold address? at hu
  split at hu
  · cases hu
  · rename_i v hv
    obtain ⟨hscheme, hpath⟩ := v.withoutUser.addQuery_eq r.query
    split at hu
    · cases hu
    · dsimp only at hu
      split at hu
      · rename_i hknown
        obtain rfl := Except.ok.inj hu
        rw [hpath]
        rw [hscheme] at hknown
        exact Url.suffix_path_of_parse (u := v) hv hknown hquery hfragment h hend
      · cases hu

end SeedCleanup
