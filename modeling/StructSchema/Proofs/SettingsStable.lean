import StructSchema.Proofs.SettingsFaults

/-!
# Loading settings again

The target options of loaded settings begin with those that the target starts from, and keep their
order: `exists_options_of_ofLayers`. So laying them over the defaults once more gives them back, and
loaded settings are their own explicit entries: `ofLayers_toEntries`. Entries lead to the same
settings, or to the same refusal, whether a file holds them or they are explicit:
`ofLayers_comm_nil`. Both together are `load_stable`.
-/

namespace StructSchema.Settings

variable {target : String} {file explicit entries laid options : Dictionary Value}
  {settings : Settings} {store : FileStore}

/-! ## Entries of settings -/

/-- Settings are those of all entries that agree with their own. -/
theorem ofEntries_eq (h : ∀ name, isDeclared name →
      entries.get? name = settings.toEntries.get? name) : ofEntries entries = settings := by
  have hvalue : ∀ name standard value, isDeclared name →
      settings.toEntries.get? name = some value → entries.getD name standard = value := by
    intro name standard value hn hv
    unfold Dictionary.getD
    rw [h name hn, hv]
    rfl
  unfold ofEntries
  dsimp only
  rw [hvalue "output_dir" _ settings.outputDir (by decide) rfl,
    hvalue "file_suffix" _ settings.fileSuffix (by decide) rfl,
    hvalue "indent_size" _ settings.indentSize (by decide) rfl,
    hvalue "all_structs" _ settings.allStructs (by decide) rfl,
    hvalue "duplicate_fields" _ settings.duplicateFields (by decide) rfl,
    hvalue "add_comments" _ settings.addComments (by decide) rfl,
    hvalue optionsName _ settings.targetOptions (by decide) rfl]

theorem nodup_keys_toEntries (settings : Settings) :
    (Dictionary.keys settings.toEntries).Nodup := by
  show (Dictionary.keys declared).Nodup
  decide

/-- Entries that are all settings leave the target options as they are. -/
theorem resolve_of_declared (hd : ∀ name ∈ Dictionary.keys entries, isDeclared name)
    (hcheck : checkTypes entries = .ok ()) : resolve entries = .ok (ofEntries entries) := by
  have hnone : entries.filter (!isDeclared ·.1) = [] :=
    List.filter_eq_nil_iff.2 fun entry he => by simp [hd _ (List.mem_map_of_mem he)]
  unfold resolve
  rw [hcheck, hnone]
  rfl

/-- Entries that agree with those of typed settings pass. -/
theorem checkTypes_of_isTyped (ht : settings.IsTyped) (h : ∀ name, isDeclared name →
      entries.get? name = settings.toEntries.get? name) : checkTypes entries = .ok () := by
  rw [checkTypes_ok_iff]
  intro name expected hm value hv
  obtain ⟨kept, hkept, hadmits⟩ := ht name expected hm
  rw [h name (isDeclared_iff.2 (List.mem_map_of_mem hm)), hkept] at hv
  exact Option.some.inj hv ▸ hadmits

/-! ## The target options -/

theorem nodup_keys_nestedOptions_defaults (target : String) :
    (Dictionary.keys (nestedOptions (defaults target))).Nodup := by
  unfold defaults
  split_ifs
  · decide
  · exact List.nodup_nil

/-- The target options of loaded settings begin with those that the target starts from. -/
theorem exists_options_of_ofLayers (hfile : (Dictionary.keys file).Nodup)
    (hexplicit : (Dictionary.keys explicit).Nodup)
    (h : ofLayers target file explicit = .ok settings) :
    ∃ options, settings.targetOptions = .object options ∧ (Dictionary.keys options).Nodup ∧
      Dictionary.keys (nestedOptions (defaults target)) <+: Dictionary.keys options := by
  obtain ⟨under, all, hu, ha, hr⟩ := ofLayers_ok h
  obtain ⟨hfit, rfl⟩ := resolve_ok hr
  obtain ⟨hfitUnder, hall⟩ := nestedOptions_lay_eq hexplicit ha hfit
  obtain ⟨-, hunder⟩ := nestedOptions_lay_eq hfile hu hfitUnder
  rw [hall, hunder]
  refine ⟨_, rfl, ?_, ?_⟩
  · exact Dictionary.nodup_keys_merge _ (Dictionary.nodup_keys_merge _
      (Dictionary.nodup_keys_merge _ (nodup_keys_nestedOptions_defaults target)))
  · exact ((Dictionary.keys_prefix_merge _ _).trans (Dictionary.keys_prefix_merge _ _)).trans
      (Dictionary.keys_prefix_merge _ _)

theorem joinOptions_defaults (target : String) (extra : Dictionary Value) :
    joinOptions ((defaults target).get? optionsName) (.object extra) =
      .ok (.object (Dictionary.merge (nestedOptions (defaults target)) extra)) := by
  unfold defaults
  split_ifs
  · rfl
  · rfl

/-! ## Loading again -/

/-- The entries of settings whose target options begin with the defaults, laid over the defaults,
are the entries of the settings. -/
theorem get?_lay_toEntries (ho : settings.targetOptions = .object options)
    (hd : (Dictionary.keys options).Nodup)
    (hfront : Dictionary.keys (nestedOptions (defaults target)) <+: Dictionary.keys options)
    (h : lay (defaults target) settings.toEntries = .ok laid) {name : String}
    (hn : isDeclared name) : laid.get? name = settings.toEntries.get? name := by
  by_cases hne : name = optionsName
  · subst hne
    have hentry : settings.toEntries.get? optionsName = some (.object options) := by
      rw [← ho]
      rfl
    obtain ⟨put, hput, hjoin⟩ := get?_lay_of_some settings.nodup_keys_toEntries h hentry
    rw [if_pos rfl, joinOptions_defaults, Dictionary.merge_of_keys_prefix hd hfront] at hjoin
    cases hjoin
    rw [hput, hentry]
  · obtain ⟨value, hvalue⟩ : ∃ value, settings.toEntries.get? name = some value :=
      Option.isSome_iff_exists.1 (Dictionary.mem_keys_iff.1 (isDeclared_iff.1 hn))
    rw [get?_lay settings.nodup_keys_toEntries h hne, hvalue]
    rfl

/-- Laying declared settings over the defaults gives declared settings. -/
theorem isDeclared_of_mem_keys_lay (h : lay (defaults target) settings.toEntries = .ok laid)
    {name : String} (hm : name ∈ Dictionary.keys laid) : isDeclared name := by
  by_contra hn
  have hnone : topOption? laid name = none := by
    rw [topOption?_lay settings.nodup_keys_toEntries h, topOption?_defaults, Option.or_none]
    unfold topOption?
    rw [if_neg hn, Dictionary.get?_eq_none_iff]
    exact fun hm => hn (isDeclared_iff.2 hm)
  unfold topOption? at hnone
  rw [if_neg hn, Dictionary.get?_eq_none_iff] at hnone
  exact hnone hm

/-- Settings of layers are their own explicit entries. -/
theorem ofLayers_toEntries (hfile : (Dictionary.keys file).Nodup)
    (hexplicit : (Dictionary.keys explicit).Nodup)
    (h : ofLayers target file explicit = .ok settings) :
    ofLayers target [] settings.toEntries = .ok settings := by
  obtain ⟨_, _, -, -, hr⟩ := ofLayers_ok h
  have htyped := isTyped_of_resolve hr
  obtain ⟨options, ho, hd, hfront⟩ := exists_options_of_ofLayers hfile hexplicit h
  obtain ⟨laid, hlaid⟩ := exists_lay_defaults target settings.nodup_keys_toEntries
  have hagree : ∀ name, isDeclared name → laid.get? name = settings.toEntries.get? name :=
    fun name hn => get?_lay_toEntries ho hd hfront hlaid hn
  have hresolve := resolve_of_declared (fun name hm => isDeclared_of_mem_keys_lay hlaid hm)
    (checkTypes_of_isTyped htyped hagree)
  rw [ofEntries_eq hagree] at hresolve
  show (lay (defaults target) settings.toEntries >>= resolve) = .ok settings
  rw [hlaid]
  exact hresolve

/-- Entries lead to the same in the place of the file and in that of explicit ones. -/
theorem ofLayers_comm_nil (target : String) (entries : Dictionary Value) :
    ofLayers target [] entries = ofLayers target entries [] := rfl

/-- Without explicit entries layers fail only where the settings are refused. -/
theorem kind_of_ofLayers_nil {fault : Fault} (hd : (Dictionary.keys entries).Nodup)
    (h : ofLayers target entries [] = .error fault) : fault.kind = .settings := by
  have hnone : (Dictionary.keys ([] : Dictionary Value)).Nodup := List.nodup_nil
  by_contra hkind
  obtain ⟨_, _, -, hmore, -⟩ := (ofLayers_error_iff hd hnone).1 ⟨h, hkind⟩
  cases hmore

/-- A file whose text writes an object has its entries. -/
theorem readFile_of_read {path : Path} {octets : List UInt8} {text : List Char}
    (hsuffix : Text.lower path.suffix = ".json") (hread : store.read path = .ok octets)
    (hdecode : Text.Utf8.decode octets = .ok text)
    (hjson : Json.read (String.ofList (Text.unifyLineEnds text)) = .ok (.object entries)) :
    readFile store path = .ok entries := by
  unfold readFile
  rw [FileStore.isPresent_of_read hread, hread]
  simp [hsuffix, hdecode, hjson, bind, Except.bind]

/-- **Loading is stable.** Loaded settings given as explicit entries are loaded as they are. Entries
are loaded to the same settings, or are refused with the same fault, whether they are explicit or
the text of a file writes them. -/
theorem load_stable (store : FileStore) (target : String) :
    (∀ explicit file settings, (Value.object explicit).Keyed →
      load store target explicit file = .ok settings →
      load store target settings.toEntries none = .ok settings) ∧
    ∀ path octets text entries, Text.lower path.suffix = ".json" →
      store.read path = .ok octets → Text.Utf8.decode octets = .ok text →
      Json.read (String.ofList (Text.unifyLineEnds text)) = .ok (.object entries) →
      load store target entries none = load store target [] (some path) ∧
        ∀ fault, load store target entries none = .error fault → fault.kind = .settings := by
  constructor
  · intro explicit file settings hexplicit h
    cases file with
    | none =>
      have hnone : (Dictionary.keys ([] : Dictionary Value)).Nodup := List.nodup_nil
      exact ofLayers_toEntries hnone hexplicit.distinct_keys h
    | some path =>
      obtain ⟨entries, hread, h⟩ := Outcome.bind_eq_ok_iff.1 h
      exact ofLayers_toEntries (keyed_of_readFile hread).distinct_keys hexplicit.distinct_keys h
  · intro path octets text entries hsuffix hread hdecode hjson
    have hfile := readFile_of_read hsuffix hread hdecode hjson
    have hd := (Json.keyed_of_read hjson).distinct_keys
    refine ⟨?_, fun fault h => kind_of_ofLayers_nil hd h⟩
    show ofLayers target [] entries = (readFile store path >>= fun file => ofLayers target file [])
    rw [hfile]
    exact ofLayers_comm_nil target entries

/-- A file with one option at the top level and another one, which no default names, under
`language_config`. -/
def looseText : String :=
  "\x7b\"timestamps\": false, \"language_config\": \x7b\"strict\": 1\x7d\x7d"

/-- The entries of the file. -/
def looseEntries : Dictionary Value :=
  [("timestamps", .bool false), (optionsName, .object [("strict", .int 1)])]

/-- Explicit options of both spellings over a file with both, and the file for itself. -/
theorem load_stable_looseText :
    (∃ settings, load (storeOfText "c.json" looseText) "nestjs"
        [("virtuals", .bool false), (optionsName, .object [("timestamps", .bool true)])]
        (some ⟨"", ["c.json"]⟩) = .ok settings ∧
      load (storeOfText "c.json" looseText) "nestjs" settings.toEntries none = .ok settings) ∧
    load (storeOfText "c.json" looseText) "nestjs" looseEntries none =
      load (storeOfText "c.json" looseText) "nestjs" [] (some ⟨"", ["c.json"]⟩) := by
  have hread : (storeOfText "c.json" looseText).read ⟨"", ["c.json"]⟩ =
      .ok looseText.toUTF8.toList := by cbv
  have hdecode : Text.Utf8.decode looseText.toUTF8.toList = .ok looseText.toList := by cbv
  have hjson : Json.read (String.ofList (Text.unifyLineEnds looseText.toList)) =
      .ok (.object looseEntries) := by cbv
  have hfile := readFile_of_read (by cbv) hread hdecode hjson
  have hkeyed : (Value.object [("virtuals", .bool false),
      (optionsName, .object [("timestamps", .bool true)])]).Keyed :=
    .object (by decide) (List.forall_mem_cons.2 ⟨.bool false, List.forall_mem_singleton.2
      (.object (by decide) (List.forall_mem_singleton.2 (.bool true)))⟩)
  obtain ⟨settings, hload⟩ : ∃ settings, load (storeOfText "c.json" looseText) "nestjs"
      [("virtuals", .bool false), (optionsName, .object [("timestamps", .bool true)])]
      (some ⟨"", ["c.json"]⟩) = .ok settings := by
    rw [load, hfile]
    exact ⟨_, rfl⟩
  obtain ⟨hagain, hchannels⟩ := load_stable (storeOfText "c.json" looseText) "nestjs"
  exact ⟨⟨settings, hload, hagain _ _ _ hkeyed hload⟩,
    (hchannels _ _ _ _ (by cbv) hread hdecode hjson).1⟩

end StructSchema.Settings
