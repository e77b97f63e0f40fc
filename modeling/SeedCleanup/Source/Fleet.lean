import SeedCleanup.Data.SortedTable
import SeedCleanup.Source.Manager

/-!
# Fleets of sources

A manager over several sources, each under a key of its own. A refresh asks all of them and takes
over their answers only when all succeed. Contents are listed in the order of the keys.
-/

namespace SeedCleanup

/-- Sources by key, and what they reported. -/
structure Fleet (κ σ β : Type) [Ord κ] where
  sources : SortedTable κ σ
  /-- What the sources reported; nothing before the first refresh or load. -/
  entries : Option (SortedTable κ (List β)) := none

/-- How a fleet speaks and how it treats what it holds. -/
structure FleetRules (κ β δ : Type) [Ord κ] where
  identity : String
  /-- How messages say what a source was asked for. -/
  subject : κ → String
  /-- The message about a key without a source. -/
  unknown : κ → String
  /-- The key of the source that a deletion goes to. -/
  keyOf : δ → κ
  /-- What is left of a source's list after a deletion. -/
  without : δ → List β → List β
  encode : SortedTable κ (List β) → String
  decode : String → Option (SortedTable κ (List β))

namespace Fleet

variable {κ σ β δ : Type} [Ord κ]

/-- A fleet that has not been asked yet. Of several sources with one key the last is kept. -/
def ofSources [Std.TransOrd κ] (sources : List (κ × σ)) : Fleet κ σ β := ⟨.ofList sources, none⟩

/-- Everything that was reported, in the order of the keys. -/
def listed (f : Fleet κ σ β) : List β :=
  match f.entries with
  | none => []
  | some t => t.values.flatten

section

variable (rules : FleetRules κ β δ) (source : Source σ β δ)

/-- What the sources answer when all are asked, each with the state after it. -/
def answers (f : Fleet κ σ β) : SortedTable κ (Except SourceError (List β) × σ) :=
  f.sources.mapValues fun _ s => source.fetch.run s

/-- The error about one source of a fleet. -/
def failure (key : κ) (e : SourceError) : SourceError :=
  .api ("could not get " ++ rules.subject key ++ ": " ++ e.message)

/-- The errors among answers, in the order of the keys. -/
def failures (answers : SortedTable κ (Except SourceError (List β) × σ)) : List SourceError :=
  answers.entries.filterMap fun a => match a.2.1 with
    | .ok _ => none
    | .error e => some (failure rules a.1 e)

/-- The lists among answers. -/
def reports (answers : SortedTable κ (Except SourceError (List β) × σ)) :
    SortedTable κ (List β) :=
  answers.mapValues fun _ a => match a.1 with
    | .ok l => l
    | .error _ => []

/-- The fleet after its sources answered. -/
def asked (f : Fleet κ σ β) : Fleet κ σ β :=
  { f with sources := (f.answers source).mapValues fun _ a => a.2 }

/-- Ask all sources, and take over what they report if none fails. -/
def refreshNow (f : Fleet κ σ β) : Except SourceError Unit × Fleet κ σ β :=
  match SourceError.join (failures rules (f.answers source)) with
  | .error e => (.error e, f.asked source)
  | .ok () => (.ok (), { f.asked source with entries := some (reports (f.answers source)) })

/-- How long a refresh takes: as long as the slowest source. -/
def refreshMillis (f : Fleet κ σ β) : Nat :=
  f.sources.values.foldl (fun n s => max n (source.fetch.millis s)) 0

/-- A refresh. The sources answer even if nobody waits for them. -/
def refresh : Call (Fleet κ σ β) Unit :=
  ⟨refreshMillis source, refreshNow rules source, asked source⟩

/-- Everything that was reported; before the first report the sources are asked. -/
def contents : Call (Fleet κ σ β) (List β) where
  millis f := if f.entries.isNone then f.refreshMillis source else 0
  run f :=
    match f.entries with
    | some _ => (.ok f.listed, f)
    | none =>
      match f.refreshNow rules source with
      | (.error e, f) => (.error e, f)
      | (.ok (), f) => (.ok f.listed, f)
  abandon f := if f.entries.isNone then f.asked source else f

variable [BEq κ]

/-- The fleet with another state of one source. -/
def setSource (f : Fleet κ σ β) (key : κ) (s : σ) : Fleet κ σ β :=
  { f with sources := f.sources.mapValues fun k old => if k == key then s else old }

/-- The fleet with a changed list of one source. -/
def setEntries (f : Fleet κ σ β) (key : κ) (change : List β → List β) : Fleet κ σ β :=
  { f with entries := f.entries.map fun t =>
      t.mapValues fun k l => if k == key then change l else l }

/-- Let the source of a deletion delete, and then forget what it deleted. -/
def delete (request : δ) : Call (Fleet κ σ β) Unit where
  millis f :=
    match f.sources.get? (rules.keyOf request) with
    | none => 0
    | some s => (source.delete request).millis s
  run f :=
    let key := rules.keyOf request
    match f.sources.get? key with
    | none => (.error (.internal (rules.unknown key)), f)
    | some s =>
      match (source.delete request).run s with
      | (.error e, s) => (.error e, f.setSource key s)
      | (.ok (), s) => (.ok (), (f.setSource key s).setEntries key (rules.without request))
  abandon f :=
    let key := rules.keyOf request
    match f.sources.get? key with
    | none => f
    | some s => f.setSource key ((source.delete request).abandon s)

/-- Replace what was reported by a saved state. -/
def load (data : String) (f : Fleet κ σ β) : Except SourceError Unit × Fleet κ σ β :=
  match rules.decode data with
  | none => (.error (.serialization "the snapshot cannot be read"), f)
  | some entries => (.ok (), { f with entries := some entries })

/-- The operations of a fleet. -/
def manager : Manager (Fleet κ σ β) β δ where
  identity := rules.identity
  refresh := refresh rules source
  save f := (.ok (rules.encode (f.entries.getD .empty)), f)
  load := load rules
  contents := contents rules source
  delete := delete rules source

end

end Fleet

end SeedCleanup
