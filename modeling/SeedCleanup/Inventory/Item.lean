import SeedCleanup.Inventory.Retention

/-!
# Items of the inventory

An item is a linked title with its report and the values that follow from its files.
-/

namespace SeedCleanup

/-- The sum of the sizes of files. -/
def totalSize (files : List LinkedFile) : UInt64 := files.foldl (fun n f => n + f.file.size) 0

/-- The latest of the title's added time and those of the torrents of its files. -/
def LinkedTitle.latestAdded (media : LinkedTitle) : Instant :=
  (media.files.filterMap fun f => f.torrent.map (·.added)).foldl Instant.max media.title.added

/-- A title of the inventory. -/
structure Item where
  linked : LinkedTitle
  report : Report
  size : UInt64
  added : Instant
deriving DecidableEq, Inhabited

namespace Item

/-- The item of a linked title and its report. -/
def of (linked : LinkedTitle) (report : Report) : Item :=
  ⟨linked, report, totalSize linked.files, linked.latestAdded⟩

/-- Whether an item is the title with this kind and number. -/
def isTitle (item : Item) (kind : MediaKind) (id : Int64) : Bool :=
  item.linked.title.kind == kind && item.linked.title.id == id

/-- The item without some of its files. Their verdicts go, and what follows from the rest is
derived anew. -/
def withoutFiles (item : Item) (remove : MediaFile → Bool) : Item :=
  let linked : LinkedTitle :=
    { item.linked with files := item.linked.files.filter fun f => !remove f.file }
  let verdicts := item.report.files.filter fun id _ => linked.files.any (·.file.id == id)
  .of linked (.ofFiles linked verdicts)

section

variable {σ : Type} (r : TrackerResolver σ) (now : Instant)

/-- Evaluate linked titles one after the other, up to the first that cannot be evaluated. -/
def ofLinked : List LinkedTitle → σ → Except InventoryError (List Item) × σ
  | [], s => (.ok [], s)
  | media :: rest, s =>
    match media.evaluate r now s with
    | (.error e, s) => (.error e, s)
    | (.ok report, s) =>
      match ofLinked rest s with
      | (.error e, s) => (.error e, s)
      | (.ok items, s) => (.ok (.of media report :: items), s)

end

end Item

end SeedCleanup
