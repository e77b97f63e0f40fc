import SeedCleanup.Proofs.DocumentTheorems
import SeedCleanup.Proofs.LibraryDeletion
import SeedCleanup.Proofs.MemberTheorems

/-!
# Seasons that are not monitored any more

The document of a series is sent back as it came, but for the seasons that are named
(`Arr.Unmonitors`). A season is named if its number is, cut to thirty-two bits, one of some numbers.
So a number beyond thirty-two bits can stand for one within (`season_beyond_int32_unmonitored`).
Numbers that fit stand for themselves, and nothing else changes whatever a server tells
(`seasons_unmonitored_by_low_bits`).
-/

namespace SeedCleanup

namespace Arr

/-! ## Numbers of seasons -/

/-- The number of a season is an integer. -/
def SeasonNumber (season : Json) (n : Int) : Prop :=
  ∃ number, season.member? "seasonNumber" = some (.num number) ∧ number.toInt? = some n

/-- Whether the number of a season is one of some numbers. -/
def IsNamed (seasons : List Int32) (season : Json) : Prop :=
  ∃ n, SeasonNumber season n ∧ ∃ m ∈ seasons, m.toInt = n

/-- Whether the number of a season fits sixty-four bits and has the low thirty-two bits of one of
some numbers. -/
def HasLowBits (seasons : List Int32) (season : Json) : Prop :=
  ∃ n, SeasonNumber season n ∧ n ≤ Int64.maxValue.toInt ∧
    ∃ m ∈ seasons, (UInt32.size : Int) ∣ n - m.toInt

/-- Whether the number of a season, if it is an integer, fits thirty-two bits. -/
def Fits (season : Json) : Prop :=
  ∀ n, SeasonNumber season n → Int32.minValue.toInt ≤ n ∧ n ≤ Int32.maxValue.toInt

/-- An integer is cut to the number of thirty-two bits that has the same low bits. -/
theorem ofInt_eq_iff {n : Int} {m : Int32} :
    Int32.ofInt n = m ↔ (UInt32.size : Int) ∣ n - m.toInt := by
  have hsize : (Int32.size : Int) = UInt32.size := rfl
  have hlow : -((UInt32.size : Int) / 2) ≤ m.toInt := m.le_toInt
  have hhigh : m.toInt < ((UInt32.size : Int) + 1) / 2 := m.toInt_lt
  rw [← Int32.toInt_inj, Int32.toInt_ofInt, Int.bmod_eq_iff (by decide), hsize, and_iff_right hlow,
    and_iff_right hhigh, ← Int.dvd_neg, Int.neg_sub]

/-- Numbers that fit stand for themselves. -/
theorem hasLowBits_iff_of_fits {seasons : List Int32} {season : Json} (h : Fits season) :
    HasLowBits seasons season ↔ IsNamed seasons season := by
  constructor
  · rintro ⟨n, hn, -, m, hm, hdvd⟩
    obtain ⟨hlow, hhigh⟩ := h n hn
    refine ⟨n, hn, m, hm, ?_⟩
    rw [← ofInt_eq_iff.2 hdvd]
    exact Int32.toInt_ofInt_of_le hlow (Int.lt_add_one_of_le hhigh)
  · rintro ⟨n, hn, m, hm, rfl⟩
    refine ⟨m.toInt, hn, ?_, m, hm, ?_⟩
    · exact Int.le_trans (h _ hn).2 (by decide)
    · rw [Int.sub_self]
      exact Int.dvd_zero _

theorem isNamedSeason_iff {seasons : List Int32} {j : Json} :
    isNamedSeason seasons j = true ↔ ∃ number n, j = .num number ∧ number.toInt? = some n ∧
      n ≤ Int64.maxValue.toInt ∧ Int32.ofInt n ∈ seasons := by
  have hmax (n : Int) : n < Nat.pow 2 63 ↔ n ≤ Int64.maxValue.toInt := by
    rw [show ((Nat.pow 2 63 : Nat) : Int) = Int64.maxValue.toInt + 1 by decide]
    exact Int.lt_add_one_iff
  unfold isNamedSeason
  split
  · rename_i number
    split
    · rename_i n hn
      rw [Bool.and_eq_true, decide_eq_true_iff, hmax, List.contains_iff_mem]
      constructor
      · rintro ⟨hle, hmem⟩
        exact ⟨number, n, rfl, hn, hle, hmem⟩
      · rintro ⟨number', n', hnumber, hn', hle, hmem⟩
        obtain rfl := Json.num.inj hnumber
        obtain rfl := Option.some.inj (hn.symm.trans hn')
        exact ⟨hle, hmem⟩
    · rename_i hnone
      refine iff_of_false Bool.false_ne_true ?_
      rintro ⟨number', n, hnumber, hn, -⟩
      obtain rfl := Json.num.inj hnumber
      exact nomatch hnone.symm.trans hn
  · rename_i hother
    refine iff_of_false Bool.false_ne_true ?_
    rintro ⟨number, n, rfl, -⟩
    exact hother number rfl

/-! ## What becomes of documents -/

/-- A season is not monitored if it is one of some, and otherwise as it was. -/
structure SeasonBecomes (named : Json → Prop) (season season' : Json) : Prop where
  monitored : named season → season'.member? "monitored" = some (.bool false)
  others : named season → ∀ name ≠ "monitored", season'.member? name = season.member? name
  same : ¬named season → season' = season

/-- A document is another one in which some seasons are not monitored and nothing else differs. -/
structure Unmonitors (named : Json → Prop) (j j' : Json) : Prop where
  others : ∀ name ≠ "seasons", j'.member? name = j.member? name
  seasons : ∀ items, j.member? "seasons" = some (.arr items) →
    ∃ items', j'.member? "seasons" = some (.arr items') ∧
      List.Forall₂ (SeasonBecomes named) items items'
  same : (∀ items, j.member? "seasons" ≠ some (.arr items)) → j' = j

section

variable {seasons : List Int32} {named : Json → Prop} {season j : Json}

/-- What becomes of the value of a member. -/
def unmonitorMember (seasons : List Int32) (name : String) (value : Json) : Json :=
  match value with
  | .arr items => if name = "seasons" then .arr (items.map (unmonitorSeason seasons)) else value
  | _ => value

theorem unmonitor_obj (members : List (String × Json)) :
    unmonitor seasons (.obj members)
      = .obj (members.map fun m => (m.1, unmonitorMember seasons m.1 m.2)) := by
  refine congrArg Json.obj (List.map_congr_left fun m _ => ?_)
  obtain ⟨name, value⟩ := m
  unfold unmonitorMember
  split
  · rename_i items heq
    obtain ⟨rfl, rfl⟩ := Prod.mk.inj heq
    rfl
  · rename_i hother
    cases value with
    | arr items =>
      have hname : name ≠ "seasons" := by
        rintro rfl
        exact hother items rfl
      simp [hname]
    | _ => rfl

/-- Whether a season is not to be monitored is seen from its number. -/
theorem any_isNamedSeason_iff {members : List (String × Json)}
    (h : (members.map (·.1)).Nodup) :
    (members.lookup "seasonNumber").any (isNamedSeason seasons) = true ↔
      HasLowBits seasons (.obj members) := by
  rw [Json.lookup_eq_member? h, Option.any_eq_true]
  constructor
  · rintro ⟨value, hvalue, hnamed⟩
    obtain ⟨number, n, rfl, hn, hmax, hmem⟩ := isNamedSeason_iff.1 hnamed
    exact ⟨n, ⟨number, hvalue, hn⟩, hmax, _, hmem, ofInt_eq_iff.1 rfl⟩
  · rintro ⟨n, ⟨number, hvalue, hn⟩, hmax, m, hm, hdvd⟩
    refine ⟨_, hvalue, isNamedSeason_iff.2 ⟨number, n, rfl, hn, hmax, ?_⟩⟩
    rwa [ofInt_eq_iff.2 hdvd]

theorem not_hasLowBits_of_not_obj (seasons : List Int32)
    (h : ∀ members, season ≠ .obj members) : ¬HasLowBits seasons season := by
  rintro ⟨n, ⟨number, hvalue, -⟩, -⟩
  cases season with
  | obj members => exact h members rfl
  | _ => exact nomatch hvalue

theorem seasonBecomes_unmonitorSeason (h : season.NamesOnce) :
    SeasonBecomes (HasLowBits seasons) season (unmonitorSeason seasons season) := by
  unfold unmonitorSeason
  split
  · rename_i members
    obtain ⟨hnodup, -⟩ := Json.namesOnce_obj_iff.1 h
    split
    · rename_i hnamed
      exact ⟨fun _ => Json.member?_setMember hnodup,
        fun _ name hne => Json.member?_setMember_of_ne hnodup hne,
        fun hnot => absurd ((any_isNamedSeason_iff hnodup).1 hnamed) hnot⟩
    · rename_i hother
      have hnot := mt (any_isNamedSeason_iff hnodup).2 hother
      exact ⟨fun hnamed => absurd hnamed hnot, fun hnamed => absurd hnamed hnot, fun _ => rfl⟩
  · rename_i hother
    have hnot := not_hasLowBits_of_not_obj seasons fun members => hother members
    exact ⟨fun hnamed => absurd hnamed hnot, fun hnamed => absurd hnamed hnot, fun _ => rfl⟩

theorem namesOnce_unmonitorSeason (h : season.NamesOnce) :
    (unmonitorSeason seasons season).NamesOnce := by
  unfold unmonitorSeason
  split
  · rename_i members
    obtain ⟨hnodup, hvalues⟩ := Json.namesOnce_obj_iff.1 h
    split
    · refine Json.namesOnce_obj_iff.2 ⟨Json.nodup_setMember hnodup, fun m hm => ?_⟩
      obtain rfl | ⟨hm, -⟩ := (Json.mem_setMember_iff hnodup).1 hm
      · trivial
      · exact hvalues m hm
    · exact h
  · exact h

theorem namesOnce_unmonitor (h : j.NamesOnce) : (unmonitor seasons j).NamesOnce := by
  cases j with
  | obj members =>
    obtain ⟨hnodup, hvalues⟩ := Json.namesOnce_obj_iff.1 h
    rw [unmonitor_obj, Json.namesOnce_obj_iff, List.map_map]
    refine ⟨hnodup, List.forall_mem_map.2 fun m hm => ?_⟩
    have hvalue := hvalues m hm
    unfold unmonitorMember
    split
    · rename_i items heq
      rw [heq, Json.namesOnce_arr_iff] at hvalue
      split
      · rw [Json.namesOnce_arr_iff, List.forall_mem_map]
        exact fun season hseason => namesOnce_unmonitorSeason (hvalue season hseason)
      · rw [heq]
        exact Json.namesOnce_arr_iff.2 hvalue
    · exact hvalue
  | _ => exact h

/-- The document that is sent back is the one that came, but for the seasons with the low bits. -/
theorem unmonitors_unmonitor (seasons : List Int32) (h : j.NamesOnce) :
    Unmonitors (HasLowBits seasons) j (unmonitor seasons j) := by
  cases j with
  | obj members =>
    obtain ⟨hnodup, hvalues⟩ := Json.namesOnce_obj_iff.1 h
    rw [unmonitor_obj]
    refine ⟨fun name hne => ?_, fun items hitems => ?_, fun hnone => ?_⟩
    · have hkeeps (value : Json) : unmonitorMember seasons name value = value := by
        unfold unmonitorMember
        split
        · rw [if_neg hne]
        · rfl
      rw [Json.member?_map, funext hkeeps, Option.map_id']
    · have hseasons : ∀ season ∈ items, season.NamesOnce :=
        Json.namesOnce_arr_iff.1 (hvalues _ (Json.mem_of_member?_eq_some hitems))
      refine ⟨items.map (unmonitorSeason seasons), ?_, ?_⟩
      · rw [Json.member?_map, hitems]
        rfl
      · rw [List.forall₂_map_right_iff, List.forall₂_same]
        exact fun season hseason => seasonBecomes_unmonitorSeason (hseasons season hseason)
    · have hsame : ∀ m ∈ members, (m.1, unmonitorMember seasons m.1 m.2) = m := by
        rintro ⟨name, value⟩ hm
        dsimp only
        unfold unmonitorMember
        split
        · rename_i items
          rw [if_neg]
          rintro rfl
          exact hnone items ((Json.member?_eq_some_iff hnodup).2 hm)
        · rfl
      rw [List.map_congr_left hsame, List.map_id']
  | _ => exact ⟨fun _ _ => rfl, nofun, fun _ => rfl⟩

/-- Among the seasons of a document it matters only which of them are named. -/
theorem Unmonitors.congr {named' : Json → Prop} {j' : Json} (h : Unmonitors named j j')
    (hnamed : ∀ items, j.member? "seasons" = some (.arr items) →
      ∀ season ∈ items, (named season ↔ named' season)) : Unmonitors named' j j' := by
  refine ⟨h.others, fun items hitems => ?_, h.same⟩
  obtain ⟨items', hitems', hbecome⟩ := h.seasons items hitems
  refine ⟨items', hitems', ?_⟩
  have hsame := hnamed items hitems
  clear hitems hitems'
  induction hbecome with
  | nil => exact .nil
  | cons hseason _ ih =>
    obtain ⟨hfirst, hrest⟩ := List.forall_mem_cons.1 hsame
    refine .cons ⟨?_, ?_, ?_⟩ (ih hrest)
    · exact fun hnamed => hseason.monitored (hfirst.2 hnamed)
    · exact fun hnamed => hseason.others (hfirst.2 hnamed)
    · exact fun hnot => hseason.same (mt hfirst.1 hnot)

end

end Arr

/-- A document of which every part is kept repeats no name. -/
theorem ArrServer.namesOnce_of_tells {answer : Except TransportError Reply} {j : Json}
    (h : ReadAs kept answer j) : j.NamesOnce := by
  obtain ⟨text, -, htext⟩ := h
  obtain ⟨j, -, rfl⟩ := Option.map_eq_some_iff.1 htext
  exact Json.namesOnce_sorted j

/-- A document that a server tells of a series is sent back in one request. -/
theorem ArrServer.exchanges_unmonitorSeries {a : ArrServer} {ω : Type} {serve : Serving ω} {w : ω}
    {series : Int64} (seasons : List Int32) {j : Json}
    (hj : ReadAs kept (serve w (a.getSeries series)).1 j) :
    ∃ answer, Dialog.exchanges serve ((a.unmonitorSeries series seasons).run.run ()) w
      = [⟨a.getSeries series, (serve w (a.getSeries series)).1⟩,
          ⟨a.putSeries series (Arr.unmonitor seasons j), answer⟩] := by
  have hcourse := Session.course_lead serve (a.unmonitorSeries series seasons) () w
  generalize hlog : Dialog.exchanges serve _ w = log at hcourse ⊢
  generalize (Session.lead serve _ () w).1 = result at hcourse
  cases seriesRun_of_course hcourse with
  | @unread answer hnone e =>
    have hanswer : answer = (serve w (a.getSeries series)).1 :=
      Dialog.answer_of_exchanges_eq_cons hlog
    rw [← hanswer] at hj
    exact absurd hj (hnone j)
  | @put got answer j' _ htells _ =>
    have hgot : got = (serve w (a.getSeries series)).1 :=
      Dialog.answer_of_exchanges_eq_cons hlog
    rw [← hgot] at hj ⊢
    obtain rfl := htells.unique hj
    exact ⟨answer, rfl⟩

/-- Whatever document a server tells of a series, it is sent back with the seasons not monitored
whose numbers have the low bits of those that are named, and nothing else differs. Where the numbers
of all seasons fit thirty-two bits, these are the seasons that are named. -/
theorem seasons_unmonitored_by_low_bits (a : ArrServer) {ω : Type} (serve : Serving ω) (w : ω)
    (series : Int64) (seasons : List Int32) {j : Json}
    (hj : ReadAs ArrServer.kept (serve w (a.getSeries series)).1 j) :
    ∃ j' answer,
      Dialog.exchanges serve ((a.unmonitorSeries series seasons).run.run ()) w
        = [⟨a.getSeries series, (serve w (a.getSeries series)).1⟩,
            ⟨a.putSeries series j', answer⟩] ∧
      (j.NamesOnce ∧ j'.NamesOnce) ∧ Arr.Unmonitors (Arr.HasLowBits seasons) j j' ∧
      ((∀ items, j.member? "seasons" = some (.arr items) → ∀ season ∈ items, Arr.Fits season) →
        Arr.Unmonitors (Arr.IsNamed seasons) j j') := by
  obtain ⟨answer, hlog⟩ := ArrServer.exchanges_unmonitorSeries seasons hj
  have honce := ArrServer.namesOnce_of_tells hj
  have hbecomes := Arr.unmonitors_unmonitor seasons honce
  refine ⟨_, answer, hlog, ⟨honce, Arr.namesOnce_unmonitor honce⟩, hbecomes, fun hfits => ?_⟩
  exact hbecomes.congr fun items hitems season hseason =>
    Arr.hasLowBits_iff_of_fits (hfits items hitems season hseason)

/-- A document that is sorted is kept as it was written. -/
theorem ArrServer.kept_text {j : Json} (h : j.Faithful) (hkeepable : j.isKeepable 0 = true)
    (hsorted : j.sorted = j) : kept j.text = some j := by
  rw [kept, Json.parseKept, Json.parse_text h, Option.filter_some, if_pos hkeepable,
    Option.map_some, hsorted]

namespace Sample

/-- The document of a season that is monitored. -/
def season (n : UInt64) : Json :=
  .obj [("monitored", .bool true), ("seasonNumber", .num (.whole n))]

/-- The document of a series with some seasons. -/
def seriesOf (numbers : List UInt64) : Json := .obj [("seasons", .arr (numbers.map season))]

/-- A server that has one document for all requests. -/
def telling (j : Json) : Serving Unit := fun w _ => (.ok ⟨200, "/", j.text⟩, w)

theorem faithful_seriesOf (numbers : List UInt64) : (seriesOf numbers).Faithful := by
  refine .obj (List.forall_mem_singleton.2 (.arr (List.forall_mem_map.2 fun n _ => .obj ?_)))
  refine List.forall_mem_cons.2 ⟨.bool true, List.forall_mem_singleton.2 (.num ?_)⟩
  exact Number.readsBack_whole n

theorem tells_telling (numbers : List UInt64) (request : Outgoing)
    (hkeepable : (seriesOf numbers).isKeepable 0 = true)
    (hsorted : (seriesOf numbers).sorted = seriesOf numbers) :
    ReadAs ArrServer.kept (telling (seriesOf numbers) () request).1 (seriesOf numbers) :=
  ⟨_, ⟨_, rfl, Nat.le_of_ble_eq_true rfl, Nat.le_of_ble_eq_true rfl, rfl⟩,
    ArrServer.kept_text (faithful_seriesOf numbers) hkeepable hsorted⟩

theorem seasonNumber_season_iff {m : UInt64} {n : Int} :
    Arr.SeasonNumber (season m) n ↔ n = m.toNat := by
  constructor
  · rintro ⟨number, hnumber, hn⟩
    obtain rfl : Number.whole m = number := Json.num.inj (Option.some.inj hnumber)
    exact (Option.some.inj hn).symm
  · rintro rfl
    exact ⟨.whole m, rfl, rfl⟩

end Sample

/-- Of two seasons the first is named. -/
theorem first_season_unmonitored :
    ReadAs ArrServer.kept
        (Sample.telling (Sample.seriesOf [1, 2]) () (Sample.seriesLibrary.getSeries 5)).1
        (Sample.seriesOf [1, 2]) ∧
      ∃ j' answer,
        (Dialog.exchanges (Sample.telling (Sample.seriesOf [1, 2]))
          ((Sample.seriesLibrary.unmonitorSeries 5 [1]).run.run ()) ()).getLast?
            = some ⟨Sample.seriesLibrary.putSeries 5 j', answer⟩ ∧
        Arr.Unmonitors (Arr.IsNamed [1]) (Sample.seriesOf [1, 2]) j' := by
  have htells := Sample.tells_telling [1, 2] (Sample.seriesLibrary.getSeries 5) (by decide) rfl
  obtain ⟨j', answer, hlog, -, -, hnamed⟩ := seasons_unmonitored_by_low_bits Sample.seriesLibrary
    (Sample.telling (Sample.seriesOf [1, 2])) () 5 [1] htells
  refine ⟨htells, j', answer, by rw [hlog]; rfl, hnamed ?_⟩
  intro items hitems season hseason n hn
  obtain rfl : [1, 2].map Sample.season = items := Json.arr.inj (Option.some.inj hitems)
  obtain ⟨m, hm, rfl⟩ := List.mem_map.1 hseason
  have hfits : ∀ m ∈ ([1, 2] : List UInt64),
      Int32.minValue.toInt ≤ m.toNat ∧ m.toNat ≤ Int32.maxValue.toInt :=
    List.forall_mem_cons.2 ⟨by decide, List.forall_mem_singleton.2 (by decide)⟩
  rw [Sample.seasonNumber_season_iff.1 hn]
  exact hfits m hm

/-- A number beyond thirty-two bits stands for another one: of a series whose only season has the
number 2 ^ 32 + 1, that season is not monitored any more when season 1 is named. -/
theorem season_beyond_int32_unmonitored :
    ∃ j' answer,
      (Dialog.exchanges (Sample.telling (Sample.seriesOf [4294967297]))
        ((Sample.seriesLibrary.unmonitorSeries 5 [1]).run.run ()) ()).getLast?
          = some ⟨Sample.seriesLibrary.putSeries 5 j', answer⟩ ∧
      ¬Arr.Unmonitors (Arr.IsNamed [1]) (Sample.seriesOf [4294967297]) j' := by
  have htells := Sample.tells_telling [4294967297] (Sample.seriesLibrary.getSeries 5)
    (by decide) rfl
  obtain ⟨answer, hlog⟩ := ArrServer.exchanges_unmonitorSeries [1] htells
  refine ⟨_, answer, by rw [hlog]; rfl, fun hchanges => ?_⟩
  have hother : ¬Arr.IsNamed [1] (Sample.season 4294967297) := by
    rintro ⟨n, hn, m, hm, hnamed⟩
    rw [Sample.seasonNumber_season_iff.1 hn, List.mem_singleton.1 hm] at hnamed
    exact absurd hnamed (by decide)
  obtain ⟨items', hitems', hbecome⟩ := hchanges.seasons _ rfl
  obtain rfl := Json.arr.inj (Option.some.inj hitems')
  obtain ⟨hseason, -⟩ := List.forall₂_cons.1 hbecome
  have hmonitored := congrArg (Json.member? "monitored") (hseason.same hother)
  exact Bool.false_ne_true (Json.bool.inj (Option.some.inj hmonitored))

end SeedCleanup
