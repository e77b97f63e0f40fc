import SeedCleanup.Config.Load
import SeedCleanup.Media.Arr
import SeedCleanup.Proofs.OverlayTheorems

/-!
# Settings that the environment overrides

A variable of the environment has a value laid over the file at the end of a path, for which its
name is cut at every underscore. So the variable that is made for a setting reaches it if the name
of the setting has no underscore, and then changes nothing else
(`Config.Setting.overrides_of_isPlain`). The value of any other variable is lost without an error
(`Config.Setting.ofJson?_overlay_of_not_isPlain`), also that for `dry_run`.
-/

namespace SeedCleanup

open Json Json.Record Environment

/-! ## Reading the parts of a configuration after a value was laid over them -/

section

variable {d : Json.Dialect} {tables path : List String} {first : String} {value : Json}

/-! ### Where to listen and how the inventory is kept -/

theorem ServerSettings.readsRecord :
    d.ReadsRecord ["host", "port"] (ServerSettings.ofJson? d) := ⟨_, fun _ => rfl⟩

theorem InventorySettings.readsRecord :
    d.ReadsRecord ["cache_dir", "use_cached_copy", "persist", "source_timeout_secs"]
      (InventorySettings.ofJson? d) := ⟨_, fun _ => rfl⟩

theorem LibrarySettings.readsRecord :
    d.ReadsRecord ["url", "api_key", "timeout_secs"] (LibrarySettings.ofJson? d) :=
  ⟨_, fun _ => rfl⟩

theorem ServerSettings.readsPart_host :
    d.ReadsPart ["host", "port"] (ServerSettings.ofJson? d) "host"
      (·.withDefault "host" ({} : ServerSettings).host IpAddress.ofJson?) (·.host)
      fun host s => { s with host } :=
  ⟨by decide, _, fun _ => rfl,
    .here <|
      .past (by decide) fun _ =>
      completes_some (fun _ => rfl) fun _ _ => rfl⟩

theorem ServerSettings.readsPart_port :
    d.ReadsPart ["host", "port"] (ServerSettings.ofJson? d) "port"
      (·.withDefault "port" ({} : ServerSettings).port Json.uint16?) (·.port)
      fun port s => { s with port } :=
  ⟨by decide, _, fun _ => rfl,
    .past (by decide) fun _ =>
    .here <|
      completes_some (fun _ => rfl) fun _ _ => rfl⟩

theorem InventorySettings.readsPart_persist :
    d.ReadsPart ["cache_dir", "use_cached_copy", "persist", "source_timeout_secs"]
      (InventorySettings.ofJson? d) "persist"
      (·.withDefault "persist" ({} : InventorySettings).persist Json.bool?) (·.persist)
      fun persist s => { s with persist } :=
  ⟨by decide, _, fun _ => rfl,
    .past (by decide) fun _ =>
    .past (by decide) fun _ =>
    .here <|
      .past (by decide) fun _ =>
      completes_some (fun _ => rfl) fun _ _ => rfl⟩

/-! ### Libraries -/

theorem LibrarySettings.readsPart_url :
    d.ReadsPart ["url", "api_key", "timeout_secs"] (LibrarySettings.ofJson? d) "url"
      (·.required "url" Json.string?) (·.url) fun url s => { s with url } :=
  ⟨by decide, _, fun _ => rfl,
    .here <|
      .pastRequired (by decide) fun _ =>
      .past (by decide) fun _ =>
      completes_some (fun _ => rfl) fun _ _ => rfl⟩

/-- A library needs more than one setting. -/
theorem LibrarySettings.ofJson?_nest :
    LibrarySettings.ofJson? d (nest (first :: path) value) = none := by
  by_contra hsome
  obtain ⟨s, hs⟩ := Option.ne_none_iff_exists'.1 hsome
  simp only [ofJson?, nest, List.foldr_cons, Option.bind_eq_bind, Option.bind_eq_some_iff] at hs
  obtain ⟨r, hr, url, hurl, apiKey, hkey, -⟩ := hs
  obtain ⟨-, rfl⟩ := Dialect.record?_eq_some_iff.1 hr
  obtain ⟨_, hurl, -⟩ := Option.bind_eq_some_iff.1 hurl
  obtain ⟨_, hkey, -⟩ := Option.bind_eq_some_iff.1 hkey
  rw [lookup_known (by decide), lookup_cons_eq_ite] at hurl hkey
  split at hurl
  · rename_i hfirst
    obtain rfl : "url" = first := hfirst
    simp at hkey
  · simp at hurl

/-- The settings of the library of a kind. -/
def MediaSettings.library? (s : MediaSettings) : MediaKind → Option LibrarySettings
  | .movie => s.radarr
  | .series => s.sonarr

/-- The libraries with one of them changed, if it is configured. -/
def MediaSettings.update? (s : MediaSettings) (kind : MediaKind)
    (put : LibrarySettings → Option LibrarySettings) : Option MediaSettings :=
  ((s.library? kind).bind put).map fun l =>
    match kind with
    | .movie => { s with radarr := some l }
    | .series => { s with sonarr := some l }

theorem MediaSettings.update?_some {s : MediaSettings} {kind : MediaKind}
    (h : s.library? kind ≠ none) : s.update? kind some = some s := by
  obtain ⟨sonarr, radarr⟩ := s
  cases kind with
  | movie => cases radarr with
    | none => exact absurd rfl h
    | some l => rfl
  | series => cases sonarr with
    | none => exact absurd rfl h
    | some l => rfl

theorem MediaSettings.readsRecord :
    d.ReadsRecord ["sonarr", "radarr"] (MediaSettings.ofJson? d) := ⟨_, fun _ => rfl⟩

/-- The libraries with that of a kind replaced. -/
def MediaSettings.withLibrary (kind : MediaKind) (library? : Option LibrarySettings)
    (s : MediaSettings) : MediaSettings :=
  match kind with
  | .movie => { s with radarr := library? }
  | .series => { s with sonarr := library? }

theorem MediaSettings.update?_eq (s : MediaSettings) (kind : MediaKind)
    (put : LibrarySettings → Option LibrarySettings) :
    s.update? kind put
      = (((s.library? kind).bind put).map some).map fun l? => s.withLibrary kind l? := by
  rw [update?, Option.map_map]
  cases kind <;> rfl

theorem MediaSettings.readsPart (kind : MediaKind) :
    d.ReadsPart ["sonarr", "radarr"] (MediaSettings.ofJson? d) kind.serverName
      (·.withDefault kind.serverName none (Json.option? (LibrarySettings.ofJson? d)))
      (·.library? kind) (withLibrary kind) := by
  cases kind with
  | series =>
    exact ⟨by decide, _, fun _ => rfl, .here <|
      .past (by decide) fun _ =>
        completes_some (fun _ => rfl) fun _ _ => rfl⟩
  | movie =>
    exact ⟨by decide, _, fun _ => rfl,
      .past (by decide) fun _ => .here <| completes_some (fun _ => rfl) fun _ _ => rfl⟩

theorem MediaSettings.overrides (kind : MediaKind) {put : LibrarySettings → Option LibrarySettings}
    (hput : Overrides (LibrarySettings.ofJson? d) tables (first :: path) value put) :
    Overrides (MediaSettings.ofJson? d) (kind.serverName :: tables)
      (kind.serverName :: first :: path) value fun s => s.update? kind put := by
  simp only [update?_eq]
  exact hput.inOption LibrarySettings.readsRecord LibrarySettings.ofJson?_nest (readsPart kind)

/-! ### The configuration -/

/-- The names that a configuration has for its parts. -/
def Config.partNames : List String :=
  ["dry_run", "server", "inventory", "trackers", "media", "torrent_clients"]

theorem Config.readsRecord : d.ReadsRecord partNames (Config.ofJson? d) := ⟨_, fun _ => rfl⟩

theorem Config.readsPart_server :
    d.ReadsPart partNames (Config.ofJson? d) "server"
      (·.withDefault "server" {} (ServerSettings.ofJson? d)) (·.server)
      fun server c => { c with server } :=
  ⟨by decide, _, fun _ => rfl,
    .past (by decide) fun _ =>
    .here <|
      .past (by decide) fun _ =>
      .past (by decide) fun _ =>
      .past (by decide) fun _ =>
      .past (by decide) fun _ =>
      completes_some (fun _ => rfl) fun _ _ => rfl⟩

theorem Config.readsPart_inventory :
    d.ReadsPart partNames (Config.ofJson? d) "inventory"
      (·.withDefault "inventory" {} (InventorySettings.ofJson? d)) (·.inventory)
      fun inventory c => { c with inventory } :=
  ⟨by decide, _, fun _ => rfl,
    .past (by decide) fun _ =>
    .past (by decide) fun _ =>
    .here <|
      .past (by decide) fun _ =>
      .past (by decide) fun _ =>
      .past (by decide) fun _ =>
      completes_some (fun _ => rfl) fun _ _ => rfl⟩

theorem Config.readsPart_media :
    d.ReadsPart partNames (Config.ofJson? d) "media"
      (·.withDefault "media" {} (MediaSettings.ofJson? d)) (·.media)
      fun media c => { c with media } :=
  ⟨by decide, _, fun _ => rfl,
    .past (by decide) fun _ =>
    .past (by decide) fun _ =>
    .past (by decide) fun _ =>
    .past (by decide) fun _ =>
    .here <|
      .past (by decide) fun _ =>
      completes_some (fun _ => rfl) fun _ _ => rfl⟩

end

/-! ## Settings and their variables -/

namespace Config

/-- A single value of a configuration that stands in no list. -/
inductive Setting where
  | dryRun
  | host
  | port
  | cacheDir
  | useCachedCopy
  | persist
  | sourceTimeout
  | url (kind : MediaKind)
  | apiKey (kind : MediaKind)
  | timeout (kind : MediaKind)

namespace Setting

/-- The table in which a setting stands. -/
def table : Setting → List String
  | dryRun => []
  | host | port => ["server"]
  | cacheDir | useCachedCopy | persist | sourceTimeout => ["inventory"]
  | url kind | apiKey kind | timeout kind => ["media", kind.serverName]

/-- The name of a setting in its table. -/
def name : Setting → String
  | dryRun => "dry_run"
  | host => "host"
  | port => "port"
  | cacheDir => "cache_dir"
  | useCachedCopy => "use_cached_copy"
  | persist => "persist"
  | sourceTimeout => "source_timeout_secs"
  | url _ => "url"
  | apiKey _ => "api_key"
  | timeout _ => "timeout_secs"

/-- The path of a setting with dots between its parts. -/
def dotted (s : Setting) : String := ".".intercalate (s.table ++ [s.name])

/-- The variable that is made for a setting: its path in upper case behind the program's mark, with
underscores for the dots. -/
def variableName (s : Setting) : String :=
  "SEEDWARDEN_" ++ String.ofList (s.dotted.toList.map fun c => if c = '.' then '_' else c.toUpper)

/-- No part of the path of a setting has an underscore. -/
def IsPlain (s : Setting) : Prop := '_' ∉ s.dotted.toList

instance (s : Setting) : Decidable s.IsPlain := inferInstanceAs (Decidable (_ ∉ _))

/-- A setting is there unless it belongs to a library that is not configured. -/
def IsConfigured (c : Config) : Setting → Prop
  | url kind | apiKey kind | timeout kind => c.media.library? kind ≠ none
  | _ => True

/-- A configuration with a value for a setting and all else as it was. Nothing if the value does not
fit the setting or the setting is not there. -/
def put? (v : Json) (c : Config) : Setting → Option Config
  | dryRun => v.bool?.map fun dryRun => { c with dryRun }
  | host => inServer ((IpAddress.ofJson? v).map fun host => { c.server with host })
  | port => inServer (v.uint16?.map fun port => { c.server with port })
  | cacheDir => inInventory (v.string?.map fun cacheDir => { c.inventory with cacheDir })
  | useCachedCopy =>
    inInventory (v.bool?.map fun useCachedCopy => { c.inventory with useCachedCopy })
  | persist => inInventory (v.bool?.map fun persist => { c.inventory with persist })
  | sourceTimeout =>
    inInventory (v.uint64?.map fun sourceTimeoutSecs => { c.inventory with sourceTimeoutSecs })
  | url kind => inLibrary kind fun l => v.string?.map fun url => { l with url }
  | apiKey kind => inLibrary kind fun l => v.string?.map fun apiKey => { l with apiKey }
  | timeout kind => inLibrary kind fun l => v.uint32?.map fun timeoutSecs => { l with timeoutSecs }
where
  /-- The configuration with other settings of the server. -/
  inServer (server? : Option ServerSettings) : Option Config :=
    server?.map fun server => { c with server }
  /-- The configuration with other settings of the inventory. -/
  inInventory (inventory? : Option InventorySettings) : Option Config :=
    inventory?.map fun inventory => { c with inventory }
  /-- The configuration with another library. -/
  inLibrary (kind : MediaKind) (put : LibrarySettings → Option LibrarySettings) : Option Config :=
    (c.media.update? kind put).map fun media => { c with media }

/-- The path of a setting cut at every underscore. -/
def reached (s : Setting) : List String :=
  (Text.splitBy (fun c => c == '_' || c == '.') s.dotted.toList).map String.ofList

theorem path?_variableName (s : Setting) :
    Environment.path? s.variableName = some s.reached := by
  cases s with
  | url kind => cases kind <;> decide +kernel
  | apiKey kind => cases kind <;> decide +kernel
  | timeout kind => cases kind <;> decide +kernel
  | _ => decide +kernel

example : dryRun.variableName = "SEEDWARDEN_DRY_RUN" ∧ dryRun.reached = ["dry", "run"] := by
  decide +kernel

theorem reached_ne_nil (s : Setting) : s.reached ≠ [] := by
  cases s with
  | url kind => cases kind <;> decide +kernel
  | apiKey kind => cases kind <;> decide +kernel
  | timeout kind => cases kind <;> decide +kernel
  | _ => decide +kernel

/-- The variable of a plain setting leads to it, and changes nothing else. -/
theorem overrides_of_isPlain {s : Setting} (h : s.IsPlain) {d : Json.Dialect} {v : Json} :
    Overrides (Config.ofJson? d) s.table s.reached v fun c => s.put? v c := by
  cases s with
  | host =>
    rw [show host.reached = ["server", "host"] by decide +kernel]
    exact (overrides_withDefault ServerSettings.readsPart_host fun _ => rfl).inPart
      ServerSettings.readsRecord rfl Config.readsPart_server
  | port =>
    rw [show port.reached = ["server", "port"] by decide +kernel]
    exact (overrides_withDefault ServerSettings.readsPart_port fun _ => rfl).inPart
      ServerSettings.readsRecord rfl Config.readsPart_server
  | persist =>
    rw [show persist.reached = ["inventory", "persist"] by decide +kernel]
    exact (overrides_withDefault InventorySettings.readsPart_persist fun _ => rfl).inPart
      InventorySettings.readsRecord rfl Config.readsPart_inventory
  | url kind =>
    have hreached : (url kind).reached = ["media", kind.serverName, "url"] := by
      cases kind <;> decide +kernel
    rw [hreached]
    exact (MediaSettings.overrides kind
      (overrides_required LibrarySettings.readsPart_url fun _ => rfl)).inPart
        MediaSettings.readsRecord rfl Config.readsPart_media
  | apiKey kind => cases kind <;> exact absurd h (by decide)
  | timeout kind => cases kind <;> exact absurd h (by decide)
  | _ => exact absurd h (by decide)

/-- A value that leads to a member of a library without a known name is lost. -/
theorem ofJson?_overlay_library {d : Json.Dialect} {v : Json} {members : List (String × Json)}
    {c : Config} {kind : MediaKind} {first : String} {path : List String}
    (hc : Config.ofJson? d (.obj members) = some c) (hconfigured : c.media.library? kind ≠ none)
    (htables : (Json.obj members).TablesOn ["media", kind.serverName])
    (hfirst : first ∉ ["url", "api_key", "timeout_secs"]) :
    Config.ofJson? d (overlay (.obj members) (nest ("media" :: kind.serverName :: first :: path) v))
      = some c := by
  have hlibrary : Overrides (LibrarySettings.ofJson? d) [] (first :: path) v some :=
    LibrarySettings.readsRecord.overrides hfirst
  have hmedia := (MediaSettings.overrides kind hlibrary).inPart MediaSettings.readsRecord rfl
    Config.readsPart_media
  refine (hmedia hc htables).trans ?_
  beta_reduce
  rw [MediaSettings.update?_some hconfigured, Option.map_some]

/-- The variable of any other setting leads where nothing is read. -/
theorem ofJson?_overlay_of_not_isPlain {s : Setting} (h : ¬s.IsPlain) {d : Json.Dialect} {v : Json}
    {members : List (String × Json)} {c : Config} (hc : Config.ofJson? d (.obj members) = some c)
    (hconfigured : s.IsConfigured c) (htables : (Json.obj members).TablesOn s.table) :
    Config.ofJson? d (overlay (.obj members) (nest s.reached v)) = some c := by
  have hinventory : ∀ {first path}, s.table = ["inventory"] →
      first ∉ ["cache_dir", "use_cached_copy", "persist", "source_timeout_secs"] →
      Config.ofJson? d (overlay (.obj members) (nest ("inventory" :: first :: path) v)) = some c :=
    fun htable hfirst =>
      (InventorySettings.readsRecord.overrides hfirst).inPart InventorySettings.readsRecord rfl
        Config.readsPart_inventory hc (htable ▸ htables)
  cases s with
  | dryRun =>
    rw [show dryRun.reached = ["dry", "run"] by decide +kernel]
    exact Config.readsRecord.overrides (by decide) hc htables
  | cacheDir =>
    rw [show cacheDir.reached = ["inventory", "cache", "dir"] by decide +kernel]
    exact hinventory rfl (by decide)
  | useCachedCopy =>
    rw [show useCachedCopy.reached = ["inventory", "use", "cached", "copy"] by decide +kernel]
    exact hinventory rfl (by decide)
  | sourceTimeout =>
    rw [show sourceTimeout.reached = ["inventory", "source", "timeout", "secs"] by decide +kernel]
    exact hinventory rfl (by decide)
  | apiKey kind =>
    have hreached : (apiKey kind).reached = ["media", kind.serverName, "api", "key"] := by
      cases kind <;> decide +kernel
    rw [hreached]
    exact ofJson?_overlay_library hc hconfigured htables (by decide)
  | timeout kind =>
    have hreached : (timeout kind).reached = ["media", kind.serverName, "timeout", "secs"] := by
      cases kind <;> decide +kernel
    rw [hreached]
    exact ofJson?_overlay_library hc hconfigured htables (by decide)
  | url kind => cases kind <;> exact absurd (by decide) h
  | _ => exact absurd (by decide) h

end Setting

/-! ## Loading with a variable that is made for a setting -/

theorem exists_members_of_parse {text : String} {j : Json} (h : Toml.parse text = some j) :
    ∃ members, j = .obj members := by
  obtain ⟨p, -, rfl⟩ := Option.map_eq_some_iff.1 h
  exact ⟨_, rfl⟩

theorem load_of_parse {path text : String} {vars : Environment.Variables} {j : Json}
    (h : Toml.parse text = some j) :
    load path (some text) vars
      = (ofJson? layered (overlay j (settings vars))).elim (.error .unreadable) .ok := by
  rw [load, ofLayers, h]
  cases hj : ofJson? layered (overlay j (settings vars)) <;> simp [hj]

/-- What is loaded without variables is what is read from the file. -/
theorem exists_members_of_load {path text : String} {c : Config}
    (h : load path (some text) [] = .ok c) :
    ∃ members, Toml.parse text = some (.obj members) ∧ ofJson? layered (.obj members) = some c := by
  cases hparse : Toml.parse text with
  | none => simp [load, ofLayers, hparse] at h
  | some j =>
    obtain ⟨members, rfl⟩ := exists_members_of_parse hparse
    have hnothing : overlay (.obj members) (settings []) = .obj members := by
      rw [settings, List.foldl_nil, overlay, overlayMembers]
    rw [load_of_parse hparse, hnothing] at h
    refine ⟨members, rfl, ?_⟩
    cases hc : ofJson? layered (.obj members) with
    | none => simp [hc] at h
    | some c' =>
      rw [hc] at h
      rw [Except.ok.inj h]

/-- With one variable that leads to a part of the configuration, its value is laid over the file. -/
theorem load_of_passesBy {path text : String} {members : List (String × Json)}
    {before after : Environment.Variables} {v : String × String} {laid : List String}
    (hparse : Toml.parse text = some (.obj members))
    (hbefore : ∀ w ∈ before, PassesBy partNames w) (hafter : ∀ w ∈ after, PassesBy partNames w)
    (hpath : path? v.1 = some laid) (hlaid : laid ≠ []) :
    load path (some text) (before ++ v :: after)
      = (ofJson? layered (overlay (.obj members) (nest laid (valueOf v.2)))).elim
          (.error .unreadable) .ok := by
  obtain ⟨first, rest, rfl⟩ := List.exists_cons_of_ne_nil hlaid
  obtain ⟨above, habove, hknown⟩ := exists_settings hbefore hafter hpath
  obtain ⟨finish, hfinish⟩ := Config.readsRecord (d := layered)
  -- Of what the variables set, only this one has a known name, and nothing else is read.
  have hrecord : layered.record? partNames (.obj (overlayMembers members above))
      = layered.record? partNames
          (overlay (.obj members) (nest (first :: rest) (valueOf v.2))) := by
    rw [nest, List.foldr_cons, overlay]
    refine Dialect.record?_congr ?_
    rw [known_overlayMembers, known_overlayMembers, hknown]
    rfl
  have hread : ofJson? layered (overlay (.obj members) (.obj above))
      = ofJson? layered (overlay (.obj members) (nest (first :: rest) (valueOf v.2))) := by
    rw [hfinish, hfinish, overlay]
    exact congrArg (·.bind finish) hrecord
  rw [load_of_parse hparse, habove, hread]

/-- The variable of a plain setting sets it and leaves all other settings as they were; a value that
does not fit is refused. The variable of any other setting is without effect. -/
theorem load_with_override {path text : String} {c : Config}
    (hload : load path (some text) [] = .ok c) (s : Setting) (hconfigured : s.IsConfigured c)
    (htables : ∀ j, Toml.parse text = some j → j.TablesOn s.table) (value : String)
    (before after : Environment.Variables) (hothers : ∀ w ∈ before ++ after, PassesBy partNames w) :
    load path (some text) (before ++ (s.variableName, value) :: after)
      = if s.IsPlain then (s.put? (valueOf value) c).elim (.error .unreadable) .ok else .ok c := by
  obtain ⟨members, hparse, hc⟩ := exists_members_of_load hload
  obtain ⟨hbefore, hafter⟩ := List.forall_mem_append.1 hothers
  have hlaid : load path (some text) (before ++ (s.variableName, value) :: after)
      = (ofJson? layered (overlay (.obj members) (nest s.reached (valueOf value)))).elim
          (.error .unreadable) .ok :=
    load_of_passesBy hparse hbefore hafter s.path?_variableName s.reached_ne_nil
  rw [hlaid]
  by_cases hplain : s.IsPlain
  · rw [if_pos hplain, Setting.overrides_of_isPlain hplain hc (htables _ hparse)]
  · rw [if_neg hplain,
      Setting.ofJson?_overlay_of_not_isPlain hplain hc hconfigured (htables _ hparse),
      Option.elim_some]

end Config

/-! ## A file with one library -/

namespace Sample

def seriesFile : String :=
  "[media.sonarr]\nurl = \"http://localhost:8989\"\napi_key = \"key\"\n"

def seriesConfig : Config := { media := { sonarr := some ⟨"http://localhost:8989", "key", 30⟩ } }

theorem load_seriesFile : Config.load "config.toml" (some seriesFile) [] = .ok seriesConfig := by
  decide +kernel

end Sample

open Sample Config.Setting in
theorem port_overridden :
    Config.load "config.toml" (some seriesFile)
        [("SEEDWARDEN_CONFIG", "config.toml"), (port.variableName, "9000")]
      = .ok { seriesConfig with server := { port := 9000 } } := by
  have hother : PassesBy Config.partNames ("SEEDWARDEN_CONFIG", "config.toml") := by
    intro path hpath
    rw [show path? "SEEDWARDEN_CONFIG" = some ["config"] by decide +kernel] at hpath
    exact ⟨"config", [], (Option.some.inj hpath).symm, by decide⟩
  have htables : ∀ j, Toml.parse seriesFile = some j → j.TablesOn port.table := by
    intro j hj
    obtain ⟨members, rfl⟩ := Config.exists_members_of_parse hj
    have hnone : ((Toml.parse seriesFile).bind (Config.layered.record? ["server"])).map List.length
        = some 0 := by decide +kernel
    rw [hj, Option.bind_some] at hnone
    obtain ⟨r, hr, hlength⟩ := Option.map_eq_some_iff.1 hnone
    obtain rfl := List.length_eq_zero_iff.1 hlength
    intro server hserver
    rw [← lookup_known (List.mem_singleton_self _), (Dialect.record?_eq_some_iff.1 hr).2] at hserver
    exact nomatch hserver
  have hload := Config.load_with_override load_seriesFile port trivial htables "9000"
    [("SEEDWARDEN_CONFIG", "config.toml")] [] (by simpa using hother)
  rw [if_pos (by decide)] at hload
  refine hload.trans ?_
  decide +kernel

/-- The value that is set for `dry_run` fits, and still the configuration is that of the file. -/
theorem dry_run_not_overridden :
    Config.load "config.toml" (some Sample.seriesFile) [] = .ok Sample.seriesConfig ∧
    Config.Setting.dryRun.put? (valueOf "true") Sample.seriesConfig
      = some { Sample.seriesConfig with dryRun := true } ∧
    Config.load "config.toml" (some Sample.seriesFile) [("SEEDWARDEN_DRY_RUN", "true")]
      = .ok Sample.seriesConfig ∧
    Sample.seriesConfig ≠ { Sample.seriesConfig with dryRun := true } :=
  ⟨Sample.load_seriesFile, by decide +kernel, by decide +kernel, by decide⟩

end SeedCleanup
