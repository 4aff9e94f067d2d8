import Mathlib
import StructSchema.CommandLine.Run
import StructSchema.Proofs.DistinctKeys

/-!
# Which layer of the settings counts

A target option may stand at the top level of a layer or under `language_config`, and both are
joined only after all layers are laid. So the spelling counts before the layer does: an option at
the top level of the explicit entries comes first, then one at the top level of the file, and only
then those under `language_config`, the explicit ones before those of the file: `get?_ofLayers`.
A declared setting has its last layer's value: `get?_ofLayers_declared`.

Hence `explicit_over_file`: an explicit option counts exactly when it is given at the top level or
the file has no other value for it at its own top level.
-/

namespace StructSchema.Settings

variable {base extra laid layer entries : Dictionary Value} {name k : String} {value : Value}
  {settings : Settings}

/-! ## The options of one layer -/

/-- The target option that a layer sets at its top level. -/
def topOption? (layer : Dictionary Value) (name : String) : Option Value :=
  if isDeclared name then none else layer.get? name

/-- The target options that a layer has under `language_config`. -/
def nestedOptions (layer : Dictionary Value) : Dictionary Value :=
  match layer.get? optionsName with
  | some (.object options) => options
  | _ => []

/-- The target option that a layer sets: at its top level, or else under `language_config`. -/
def option? (layer : Dictionary Value) (name : String) : Option Value :=
  (topOption? layer name).or ((nestedOptions layer).get? name)

/-- What a layer has under `language_config`, if anything, is an object. -/
def OptionsFit (layer : Dictionary Value) : Prop :=
  ∀ value, layer.get? optionsName = some value → ∃ options, value = .object options

theorem nestedOptions_of_get? {options : Dictionary Value}
    (h : layer.get? optionsName = some (.object options)) : nestedOptions layer = options := by
  simp [nestedOptions, h]

theorem nestedOptions_of_none (h : layer.get? optionsName = none) : nestedOptions layer = [] := by
  simp [nestedOptions, h]

/-! ## Laying one entry -/

/-- What stands under `language_config` after `value` is laid over `old`. -/
def joinOptions (old : Option Value) (value : Value) : Except Fault Value :=
  match value with
  | .object extra =>
    match old.getD (.object []) with
    | .object options => .ok (.object (Dictionary.merge options extra))
    | other => .error (.misuse (.noAttribute other.kind "update"))
  | value => .ok value

theorem layEntry_eq (base : Dictionary Value) (name : String) (value : Value) :
    layEntry base name value =
      if name = optionsName then
        (joinOptions (base.get? optionsName) value).map (base.insert optionsName)
      else .ok (base.insert name value) := by
  unfold layEntry joinOptions
  cases value with
  | object extra =>
    by_cases hn : name = optionsName
    · simp only [if_pos hn, Dictionary.getD]
      cases (Dictionary.get? base optionsName).getD (.object []) <;> rfl
    · simp only [if_neg hn]
  | _ => by_cases hn : name = optionsName <;> simp [hn, Except.map]

/-- The options that are joined are those of an object. -/
theorem joinOptions_object {old : Option Value} {more options : Dictionary Value}
    (h : joinOptions old (.object more) = .ok (.object options)) :
    ∃ before, old.getD (.object []) = .object before ∧ options = Dictionary.merge before more := by
  unfold joinOptions at h
  simp only at h
  split at h
  · rename_i before hb
    cases h
    exact ⟨before, hb, rfl⟩
  · cases h

theorem layEntry_ok (h : layEntry base name value = .ok laid) :
    ∃ put, laid = base.insert name put ∧
      if name = optionsName then joinOptions (base.get? optionsName) value = .ok put
      else put = value := by
  rw [layEntry_eq] at h
  split_ifs at h with hn
  · cases hj : joinOptions (base.get? optionsName) value with
    | error fault => rw [hj] at h; cases h
    | ok put =>
      rw [hj] at h
      cases h
      exact ⟨put, by rw [hn], by rw [if_pos hn]⟩
  · cases h
    exact ⟨value, rfl, by rw [if_neg hn]⟩

theorem get?_layEntry_of_ne (h : layEntry base name value = .ok laid) (hk : k ≠ name) :
    laid.get? k = base.get? k := by
  obtain ⟨put, rfl, -⟩ := layEntry_ok h
  rw [Dictionary.get?_insert, if_neg hk]

/-! ## Laying a layer -/

theorem lay_cons (base : Dictionary Value) (entry : String × Value) (rest : Dictionary Value) :
    lay base (entry :: rest) = layEntry base entry.1 entry.2 >>= fun b => lay b rest := rfl

/-- Laying keeps keys distinct. -/
theorem nodup_keys_lay (hb : (Dictionary.keys base).Nodup) (h : lay base extra = .ok laid) :
    (Dictionary.keys laid).Nodup := by
  induction extra generalizing base with
  | nil => cases h; exact hb
  | cons entry rest ih =>
    rw [lay_cons] at h
    obtain ⟨b, hb', h⟩ := Outcome.bind_eq_ok_iff.1 h
    obtain ⟨put, rfl, -⟩ := layEntry_ok hb'
    exact ih (Dictionary.nodup_keys_insert entry.1 put hb) h

/-- What the layer does not name stays. -/
theorem get?_lay_of_none (h : lay base extra = .ok laid) (hk : extra.get? k = none) :
    laid.get? k = base.get? k := by
  induction extra generalizing base with
  | nil => cases h; rfl
  | cons entry rest ih =>
    obtain ⟨name, value⟩ := entry
    rw [lay_cons] at h
    obtain ⟨b, hb, h⟩ := Outcome.bind_eq_ok_iff.1 h
    rw [Dictionary.get?_cons] at hk
    split_ifs at hk with hn
    rw [ih h hk, get?_layEntry_of_ne hb hn]

/-- What the layer names is laid over what was there, and stays. -/
theorem get?_lay_of_some (hd : (Dictionary.keys extra).Nodup) (h : lay base extra = .ok laid)
    (hk : extra.get? k = some value) :
    ∃ put, laid.get? k = some put ∧
      if k = optionsName then joinOptions (base.get? optionsName) value = .ok put
      else put = value := by
  induction extra generalizing base with
  | nil => cases hk
  | cons entry rest ih =>
    obtain ⟨name, v⟩ := entry
    rw [Dictionary.keys_cons, List.nodup_cons] at hd
    rw [lay_cons] at h
    obtain ⟨b, hb, h⟩ := Outcome.bind_eq_ok_iff.1 h
    rw [Dictionary.get?_cons] at hk
    split_ifs at hk with hn
    · subst hn
      cases hk
      obtain ⟨put, rfl, hput⟩ := layEntry_ok hb
      refine ⟨put, ?_, hput⟩
      rw [get?_lay_of_none h (Dictionary.get?_eq_none_iff.2 hd.1), Dictionary.get?_insert,
        if_pos rfl]
    · obtain ⟨put, hput, hj⟩ := ih hd.2 h hk
      refine ⟨put, hput, ?_⟩
      split_ifs at hj ⊢ with ho
      · rwa [get?_layEntry_of_ne hb (ho ▸ hn)] at hj
      · exact hj

/-- A setting other than the target options has the value of the later layer. -/
theorem get?_lay (hd : (Dictionary.keys extra).Nodup) (h : lay base extra = .ok laid)
    (hk : k ≠ optionsName) : laid.get? k = (extra.get? k).or (base.get? k) := by
  cases he : extra.get? k with
  | none => rw [get?_lay_of_none h he]; rfl
  | some value =>
    obtain ⟨put, hput, hv⟩ := get?_lay_of_some hd h he
    rw [if_neg hk] at hv
    rw [hput, hv]
    rfl

theorem nodup_keys_nestedOptions (h : (Value.object layer).Keyed) :
    (Dictionary.keys (nestedOptions layer)).Nodup := by
  unfold nestedOptions
  split
  · rename_i options ho
    exact (h.of_get? ho).distinct_keys
  · exact List.nodup_nil

/-- Where the target options fit after laying, they fitted before, and the options under
`language_config` are joined. -/
theorem nestedOptions_lay_eq (hd : (Dictionary.keys extra).Nodup) (h : lay base extra = .ok laid)
    (hf : OptionsFit laid) : OptionsFit base ∧
      nestedOptions laid = Dictionary.merge (nestedOptions base) (nestedOptions extra) := by
  cases he : extra.get? optionsName with
  | none =>
    have hs := get?_lay_of_none h he
    refine ⟨fun value hv => hf value (hs.trans hv), ?_⟩
    rw [nestedOptions_of_none he, Dictionary.merge_nil]
    unfold nestedOptions
    rw [hs]
  | some value =>
    obtain ⟨put, hput, hj⟩ := get?_lay_of_some hd h he
    rw [if_pos rfl] at hj
    obtain ⟨options, rfl⟩ := hf put hput
    cases value with
    | object more =>
      obtain ⟨before, hb, rfl⟩ := joinOptions_object hj
      rw [nestedOptions_of_get? hput, nestedOptions_of_get? he]
      cases hbase : base.get? optionsName with
      | none =>
        rw [hbase] at hb
        cases hb
        rw [nestedOptions_of_none hbase]
        refine ⟨fun value hv => ?_, rfl⟩
        rw [hbase] at hv
        cases hv
      | some old =>
        rw [hbase] at hb
        obtain rfl : old = .object before := hb
        rw [nestedOptions_of_get? hbase]
        refine ⟨fun value hv => ⟨before, ?_⟩, rfl⟩
        rw [hbase] at hv
        exact (Option.some.inj hv).symm
    | _ => cases hj

/-- Where the target options fit after laying, they fitted before, and an option under
`language_config` has the value of the later layer. -/
theorem nestedOptions_lay (hx : (Value.object extra).Keyed) (h : lay base extra = .ok laid)
    (hf : OptionsFit laid) :
    OptionsFit base ∧ ∀ k, (nestedOptions laid).get? k =
      ((nestedOptions extra).get? k).or ((nestedOptions base).get? k) := by
  obtain ⟨hbase, hn⟩ := nestedOptions_lay_eq hx.distinct_keys h hf
  refine ⟨hbase, fun k => ?_⟩
  rw [hn, Dictionary.get?_merge_of_nodup (nodup_keys_nestedOptions hx)]

/-! ## The settings of entries -/

theorem isDeclared_iff : isDeclared name ↔ name ∈ Dictionary.keys declared :=
  Dictionary.mem_keys_iff.symm

/-- Settings hold what the entries give them. -/
theorem get?_toEntries_ofEntries (options : Value) (hn : isDeclared name) (hne : name ≠ optionsName)
    (h : entries.get? name = some value) :
    { ofEntries entries with targetOptions := options }.toEntries.get? name = some value := by
  rw [isDeclared_iff] at hn
  simp only [Dictionary.keys, declared, List.map_cons, List.map_nil, List.mem_cons,
    List.not_mem_nil, or_false] at hn
  rcases hn with rfl | rfl | rfl | rfl | rfl | rfl | rfl
  case inr.inr.inr.inr.inr.inr => exact absurd rfl hne
  all_goals simp [toEntries, ofEntries, Dictionary.get?_cons, Dictionary.getD, h]

theorem optionsFit_of_checkTypes (h : checkTypes entries = .ok ()) : OptionsFit entries := by
  intro value hv
  have := (checkTypes_ok_iff entries).1 h optionsName .object (by decide) value hv
  cases value with
  | object options => exact ⟨options, rfl⟩
  | _ => cases this

theorem targetOptions_ofEntries (hf : OptionsFit entries) :
    (ofEntries entries).targetOptions = .object (nestedOptions entries) := by
  unfold ofEntries nestedOptions Dictionary.getD
  cases ho : entries.get? optionsName with
  | none => rfl
  | some value =>
    obtain ⟨options, rfl⟩ := hf value ho
    rfl

/-- The settings that accepted entries give: the entries that are no settings are written over the
target options. -/
theorem resolve_ok (h : resolve entries = .ok settings) :
    OptionsFit entries ∧ settings =
      { ofEntries entries with
        targetOptions := .object (Dictionary.merge (nestedOptions entries)
          (entries.filter (!isDeclared ·.1))) } := by
  unfold resolve at h
  obtain ⟨_, hc, h⟩ := Outcome.bind_eq_ok_iff.1 h
  have hf := optionsFit_of_checkTypes hc
  have ht := targetOptions_ofEntries hf
  refine ⟨hf, ?_⟩
  simp only [ht] at h
  cases hx : entries.filter (!isDeclared ·.1) with
  | nil =>
    rw [hx] at h
    cases h
    rw [Dictionary.merge_nil, ← ht]
  | cons entry rest =>
    rw [hx] at h
    cases h
    rfl

/-- Of the two spellings of an option the top level counts first. -/
theorem get?_targetOptions_resolve (hd : (Dictionary.keys entries).Nodup)
    (h : resolve entries = .ok settings) :
    ∃ options, settings.targetOptions = .object options ∧
      ∀ k, Dictionary.get? options k = option? entries k := by
  obtain ⟨-, rfl⟩ := resolve_ok h
  refine ⟨_, rfl, fun k => ?_⟩
  rw [Dictionary.get?_merge_of_nodup (Dictionary.nodup_keys_filter _ hd),
    Dictionary.get?_filter fun key => !isDeclared key]
  unfold option? topOption?
  cases isDeclared k <;> rfl

/-! ## The settings of layers -/

variable {target : String} {file explicit : Dictionary Value}

theorem nodup_keys_defaults (target : String) : (Dictionary.keys (defaults target)).Nodup := by
  unfold defaults
  split_ifs
  · decide
  · exact List.nodup_nil

/-- The defaults of a target hold declared settings only. -/
theorem topOption?_defaults (target : String) (k : String) :
    topOption? (defaults target) k = none := by
  unfold topOption?
  split_ifs with hk
  · rfl
  · rw [Dictionary.get?_eq_none_iff]
    intro hm
    refine hk (isDeclared_iff.2 ?_)
    unfold defaults at hm
    split_ifs at hm
    · exact hm
    · cases hm

theorem topOption?_lay (hd : (Dictionary.keys extra).Nodup) (h : lay base extra = .ok laid)
    (k : String) : topOption? laid k = (topOption? extra k).or (topOption? base k) := by
  unfold topOption?
  split_ifs with hk
  · rfl
  · exact get?_lay hd h fun he => hk (he ▸ by decide)

/-- Settings from layers come from one laid layer that was accepted. -/
theorem ofLayers_ok (h : ofLayers target file explicit = .ok settings) :
    ∃ under all, lay (defaults target) file = .ok under ∧ lay under explicit = .ok all ∧
      resolve all = .ok settings := by
  unfold ofLayers at h
  obtain ⟨under, hu, h⟩ := Outcome.bind_eq_ok_iff.1 h
  obtain ⟨all, ha, h⟩ := Outcome.bind_eq_ok_iff.1 h
  exact ⟨under, all, hu, ha, h⟩

/-- The order in which the places of a target option count. -/
theorem get?_ofLayers (hfile : (Value.object file).Keyed)
    (hexplicit : (Value.object explicit).Keyed)
    (h : ofLayers target file explicit = .ok settings) :
    ∃ options, settings.targetOptions = .object options ∧ ∀ k, Dictionary.get? options k =
      (topOption? explicit k).or ((topOption? file k).or
        (((nestedOptions explicit).get? k).or
          (((nestedOptions file).get? k).or ((nestedOptions (defaults target)).get? k)))) := by
  obtain ⟨under, all, hu, ha, hr⟩ := ofLayers_ok h
  have hdu := nodup_keys_lay (nodup_keys_defaults target) hu
  obtain ⟨options, ho, hk⟩ := get?_targetOptions_resolve (nodup_keys_lay hdu ha) hr
  obtain ⟨hfu, hna⟩ := nestedOptions_lay hexplicit ha (resolve_ok hr).1
  obtain ⟨-, hnu⟩ := nestedOptions_lay hfile hu hfu
  refine ⟨options, ho, fun k => ?_⟩
  rw [hk, option?, topOption?_lay hexplicit.distinct_keys ha, topOption?_lay hfile.distinct_keys hu,
    topOption?_defaults, hna, hnu, Option.or_none, Option.or_assoc]

/-- A declared setting has the value of the last layer that gives one. -/
theorem get?_ofLayers_declared (hexplicit : (Value.object explicit).Keyed)
    (h : ofLayers target file explicit = .ok settings) (hn : isDeclared name)
    (hne : name ≠ optionsName) (hv : explicit.get? name = some value) :
    settings.toEntries.get? name = some value := by
  obtain ⟨under, all, -, ha, hr⟩ := ofLayers_ok h
  obtain ⟨-, rfl⟩ := resolve_ok hr
  refine get?_toEntries_ofEntries _ hn hne ?_
  rw [get?_lay hexplicit.distinct_keys ha hne, hv]
  rfl

/-! ## Explicit entries over a file -/

/-- The entries of a file are keyed. -/
theorem keyed_of_readFile {store : FileStore} {path : Path} (h : readFile store path = .ok file) :
    (Value.object file).Keyed := by
  unfold readFile at h
  obtain ⟨present, -, h⟩ := Outcome.bind_eq_ok_iff.1 h
  dsimp only at h
  split at h
  · cases h
  split at h
  · cases h
  obtain ⟨octets, -, h⟩ := Outcome.bind_eq_ok_iff.1 h
  obtain ⟨text, -, h⟩ := Outcome.bind_eq_ok_iff.1 h
  split at h
  · rename_i entries hr
    cases h
    exact Json.keyed_of_read hr
  all_goals cases h

/-! ## The entries of the command line -/

section CommandLine

open CommandLine

variable (flags : Options)

/-- The target options that the flags turn off. -/
def flagOptions : Dictionary Value :=
  (if flags.noTimestamps then [("timestamps", .bool false)] else [])
    ++ if flags.noVirtuals then [("virtuals", .bool false)] else []

/-- The flags set declared settings, each at most once. -/
theorem keys_explicitEntries_sublist :
    (Dictionary.keys (explicitEntries flags)).Sublist (Dictionary.keys declared) := by
  have hs : (["output_dir"] ++ ["all_structs"] ++ ["duplicate_fields"] ++ [optionsName]).Sublist
      (Dictionary.keys declared) := by decide
  refine List.Sublist.trans ?_ hs
  unfold explicitEntries Dictionary.keys
  simp only [List.map_append]
  refine ((List.Sublist.append ?_ ?_).append ?_).append ?_
  · cases nonEmpty flags.output <;> simp
  · cases flags.allStructs <;> simp
  · cases flags.duplicateFields <;> simp
  · split_ifs <;> simp

theorem keyed_flagOptions : (Value.object (flagOptions flags)).Keyed := by
  unfold flagOptions
  cases flags.noTimestamps <;> cases flags.noVirtuals <;>
    exact .object (by decide) (by simp [Value.Keyed.bool])

/-- The entries of the flags have distinct names, like those read from a text. -/
theorem keyed_explicitEntries : (Value.object (explicitEntries flags)).Keyed := by
  have hd : (Dictionary.keys declared).Nodup := by decide
  refine .object ((keys_explicitEntries_sublist flags).nodup hd) fun entry he => ?_
  simp only [explicitEntries, List.mem_append, List.mem_map] at he
  rcases he with ((⟨output, -, rfl⟩ | he) | ⟨policy, -, rfl⟩) | he
  · exact .str output
  · obtain rfl : entry = ("all_structs", .bool true) := by
      rw [List.mem_ite_nil_right, List.mem_singleton] at he
      exact he.2
    exact .bool true
  · exact .str policy
  · obtain rfl : entry = (optionsName, .object (flagOptions flags)) := by
      rw [List.mem_ite_nil_left, List.mem_singleton] at he
      exact he.2
    exact keyed_flagOptions flags

/-- The flags set no target option at the top level. -/
theorem topOption?_explicitEntries (name : String) :
    topOption? (explicitEntries flags) name = none := by
  unfold topOption?
  split_ifs with hn
  · rfl
  · rw [Dictionary.get?_eq_none_iff]
    exact fun hm => hn (isDeclared_iff.2 ((keys_explicitEntries_sublist flags).subset hm))

/-- The flags against options stand under `language_config`. -/
theorem option?_explicitEntries (name : String) :
    option? (explicitEntries flags) name = (flagOptions flags).get? name := by
  rw [option?, topOption?_explicitEntries, Option.none_or]
  have ho : (explicitEntries flags).get? optionsName =
      if (flagOptions flags).isEmpty then none else some (.object (flagOptions flags)) := by
    unfold explicitEntries
    rw [Dictionary.lookup_append, Dictionary.lookup_append, Dictionary.lookup_append]
    have h₁ : Dictionary.get? ((nonEmpty flags.output).toList.map fun output =>
        ("output_dir", Value.str output)) optionsName = none := by
      cases nonEmpty flags.output <;> rfl
    have h₂ : Dictionary.get? (if flags.allStructs then [("all_structs", Value.bool true)] else [])
        optionsName = none := by
      cases flags.allStructs <;> rfl
    have h₃ : Dictionary.get? (flags.duplicateFields.toList.map fun policy =>
        ("duplicate_fields", Value.str policy)) optionsName = none := by
      cases flags.duplicateFields <;> rfl
    rw [h₁, h₂, h₃, Option.none_or, Option.none_or, Option.none_or]
    change Dictionary.get? (if (flagOptions flags).isEmpty then []
      else [(optionsName, Value.object (flagOptions flags))]) optionsName = _
    split_ifs <;> rfl
  unfold nestedOptions
  rw [ho]
  split_ifs with he
  · rw [List.isEmpty_iff.1 he]
  · rfl

theorem get?_flagOptions_timestamps (h : flags.noTimestamps = true) :
    (flagOptions flags).get? "timestamps" = some (.bool false) := by
  rw [flagOptions, if_pos h]
  rfl

theorem get?_flagOptions_virtuals (h : flags.noVirtuals = true) :
    (flagOptions flags).get? "virtuals" = some (.bool false) := by
  rw [flagOptions, if_pos h]
  split_ifs <;> rfl

end CommandLine

/-- **Explicit entries over a file.** An explicit setting always counts. An explicit target option
counts exactly when it stands at the top level, or the file has no other value for it at its own
top level; so a flag that turns an option off does so unless the file says otherwise there. -/
theorem explicit_over_file {store : FileStore} {path : Path}
    (hfile : readFile store path = .ok file) (hexplicit : (Value.object explicit).Keyed)
    (h : load store target explicit (some path) = .ok settings) :
    (∀ name value, isDeclared name → name ≠ optionsName → explicit.get? name = some value →
      settings.toEntries.get? name = some value) ∧
    ∃ options, settings.targetOptions = .object options ∧
      (∀ name value, option? explicit name = some value →
        (Dictionary.get? options name = some value ↔
          topOption? explicit name = some value ∨ topOption? file name = none ∨
            topOption? file name = some value)) ∧
      ∀ flags, explicit = CommandLine.explicitEntries flags →
        (flags.noTimestamps = true → (Dictionary.get? options "timestamps" = some (.bool false) ↔
          ∀ value, file.get? "timestamps" = some value → value = .bool false)) ∧
        (flags.noVirtuals = true → (Dictionary.get? options "virtuals" = some (.bool false) ↔
          ∀ value, file.get? "virtuals" = some value → value = .bool false)) := by
  have hl : ofLayers target file explicit = .ok settings := by
    unfold load at h
    obtain ⟨_, hf, h⟩ := Outcome.bind_eq_ok_iff.1 h
    rw [hfile] at hf
    cases hf
    exact h
  obtain ⟨options, ho, hk⟩ := get?_ofLayers (keyed_of_readFile hfile) hexplicit hl
  have hiff : ∀ name value, option? explicit name = some value →
      (Dictionary.get? options name = some value ↔
        topOption? explicit name = some value ∨ topOption? file name = none ∨
          topOption? file name = some value) := by
    intro name value hv
    rw [hk]
    unfold option? at hv
    cases ht : topOption? explicit name with
    | some top =>
      rw [ht] at hv
      obtain rfl := Option.some.inj hv
      simp
    | none =>
      rw [ht, Option.none_or] at hv
      rw [hv]
      cases topOption? file name <;> simp
  refine ⟨fun name value hn hne hv => get?_ofLayers_declared hexplicit hl hn hne hv, options, ho,
    hiff, ?_⟩
  rintro flags rfl
  have hoff : ∀ name, isDeclared name = false →
      (flagOptions flags).get? name = some (.bool false) →
      (Dictionary.get? options name = some (.bool false) ↔
        ∀ value, file.get? name = some value → value = .bool false) := by
    intro name hn hv
    rw [hiff name _ ((option?_explicitEntries flags name).trans hv), topOption?_explicitEntries]
    unfold topOption?
    rw [hn]
    cases file.get? name <;> simp
  exact ⟨fun hn => hoff _ (by decide) (get?_flagOptions_timestamps flags hn),
    fun hn => hoff _ (by decide) (get?_flagOptions_virtuals flags hn)⟩

/-- A store with one text file in the working directory. -/
def storeOfText (name text : String) : FileStore :=
  ⟨[(⟨.above 0, [name]⟩, .file text.toUTF8.toList)]⟩

/-- Explicit options count over a file that has the same ones under `language_config`. -/
theorem explicit_over_file_nested :
    ∃ settings options,
      load (storeOfText "c.json"
          "\x7b\"indent_size\": 8, \"language_config\": \x7b\"virtuals\": true\x7d\x7d") "nestjs"
        [("indent_size", .int 4), (optionsName, .object [("virtuals", .bool false)])]
        (some ⟨"", ["c.json"]⟩) = .ok settings ∧
      settings.toEntries.get? "indent_size" = some (.int 4) ∧
      settings.targetOptions = .object options ∧
      Dictionary.get? options "virtuals" = some (.bool false) := by
  have hfile : readFile (storeOfText "c.json"
        "\x7b\"indent_size\": 8, \"language_config\": \x7b\"virtuals\": true\x7d\x7d")
      ⟨"", ["c.json"]⟩ =
        .ok [("indent_size", .int 8), (optionsName, .object [("virtuals", .bool true)])] := by cbv
  obtain ⟨settings, hload⟩ : ∃ settings, load (storeOfText "c.json"
        "\x7b\"indent_size\": 8, \"language_config\": \x7b\"virtuals\": true\x7d\x7d") "nestjs"
      [("indent_size", .int 4), (optionsName, .object [("virtuals", .bool false)])]
      (some ⟨"", ["c.json"]⟩) = .ok settings := by
    rw [load, hfile]
    exact ⟨_, rfl⟩
  have hnested : (Value.object [("virtuals", .bool false)]).Keyed :=
    .object (by decide) (List.forall_mem_singleton.2 (.bool false))
  have hkeyed : (Value.object [("indent_size", .int 4),
      (optionsName, .object [("virtuals", .bool false)])]).Keyed :=
    .object (by decide)
      (List.forall_mem_cons.2 ⟨.int 4, List.forall_mem_singleton.2 hnested⟩)
  obtain ⟨hsettings, options, ho, hoptions, -⟩ := explicit_over_file hfile hkeyed hload
  exact ⟨settings, options, hload, hsettings _ _ (by decide) (by decide) rfl, ho,
    (hoptions "virtuals" _ rfl).2 (.inr (.inl rfl))⟩

/-- The flag against timestamps is undone by a file that has them at its top level. -/
theorem timestamps_flag_undone_by_file :
    option? (CommandLine.explicitEntries { noTimestamps := true, config := some "c.json" })
      "timestamps" = some (.bool false) ∧
    ∃ settings options,
      CommandLine.settings (storeOfText "c.json" "\x7b\"timestamps\": true\x7d")
        { noTimestamps := true, config := some "c.json" } "nestjs" = .ok settings ∧
      settings.targetOptions = .object options ∧
      Dictionary.get? options "timestamps" = some (.bool true) := by
  refine ⟨rfl, { targetOptions := .object [("schema_id", .bool true), ("timestamps", .bool true),
    ("virtuals", .bool true), ("version_key", .bool false), ("type_map", .object [])] }, _,
    ?_, rfl, rfl⟩
  cbv

end StructSchema.Settings
