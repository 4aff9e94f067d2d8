import StructSchema.Proofs.ReadableClass
import StructSchema.Proofs.SettingsStable

/-!
# Options over options

Options of the schema class may be laid over the target options of settings. Typed options leave
checked options checked, `SchemaOptions.check_ofEntries_merge`, so a generator is made from the
standard settings with any typed options laid over them, and `Nest.make` gives that generator where
it is given no settings: `Nest.make_none`.
-/

namespace StructSchema

/-! ## Typed options -/

namespace SchemaOptions

variable {entries options : Dictionary Value}

/-- Options of the schema class, each once and of the kind of its standard value. -/
structure AreTyped (options : Dictionary Value) : Prop where
  nodup_keys : (Dictionary.keys options).Nodup
  kind_eq : ∀ option ∈ options,
    (({} : SchemaOptions).toEntries.get? option.1).map Value.kind = some option.2.kind

/-- Options among entries pass if each is of the kind of its standard value. -/
theorem check_ofEntries_iff : (ofEntries entries).check = .ok () ↔
    ∀ option ∈ ({} : SchemaOptions).toEntries,
      (entries.getD option.1 option.2).kind = option.2.kind := by
  rw [Nest.check_eq_ok_iff]
  simp only [flags, toEntries, ofEntries, List.forall_mem_cons, List.not_mem_nil]
  simp [Value.kind, and_assoc]

/-- Typed options over options that pass give options that pass. -/
theorem check_ofEntries_merge (h : (ofEntries entries).check = .ok ()) (ho : AreTyped options) :
    (ofEntries (entries.merge options)).check = .ok () := by
  rw [check_ofEntries_iff] at h ⊢
  intro option hoption
  rw [Dictionary.getD_merge_of_nodup ho.nodup_keys]
  cases hvalue : options.get? option.1 with
  | none => exact h option hoption
  | some value =>
    have hkind := ho.kind_eq _ (Dictionary.mem_of_get? hvalue)
    have hnodup : (Dictionary.keys ({} : SchemaOptions).toEntries).Nodup := by decide
    rw [(Dictionary.get?_eq_some_iff_mem hnodup).2 hoption] at hkind
    exact (Option.some.inj hkind).symm

/-- The flags with options laid over them. -/
theorem flags_ofEntries_merge (ho : AreTyped options) :
    (ofEntries (entries.merge options)).flags =
      (ofEntries entries).flags.map fun flag => (flag.1, (options.get? flag.1).getD flag.2) := by
  unfold ofEntries flags
  simp only [Dictionary.getD_merge_of_nodup ho.nodup_keys, List.map_cons, List.map_nil]

/-- Options leave the flags as they are exactly if they say the same. -/
theorem flags_merge_eq_iff (ho : AreTyped options) :
    (ofEntries entries).flags = (ofEntries (entries.merge options)).flags ↔
      ∀ flag ∈ (ofEntries entries).flags, ∀ value,
        options.get? flag.1 = some value → value = flag.2 := by
  rw [flags_ofEntries_merge ho, eq_comm]
  conv_lhs => rhs; rw [← List.map_id (ofEntries entries).flags]
  rw [List.map_inj_left]
  refine forall₂_congr fun flag _ => ?_
  cases options.get? flag.1 with
  | none => simp
  | some value => simp [Prod.ext_iff]

theorem AreTyped.not_mem_keys (ho : AreTyped options) {name : String}
    (h : ({} : SchemaOptions).toEntries.get? name = none) : name ∉ Dictionary.keys options := by
  intro hm
  obtain ⟨option, hoption, rfl⟩ := List.mem_map.1 hm
  have hkind := ho.kind_eq option hoption
  rw [h] at hkind
  cases hkind

end SchemaOptions

/-! ## Options over settings -/

namespace Settings

variable {options : Dictionary Value}

/-- The target options as entries. -/
def targetEntries (settings : Settings) : Dictionary Value :=
  match settings.targetOptions with
  | .object entries => entries
  | _ => []

/-- The settings with entries laid over their target options. -/
def withTargetOptions (settings : Settings) (extra : Dictionary Value) : Settings :=
  { settings with targetOptions := .object (settings.targetEntries.merge extra) }

theorem targetOptions_withTargetOptions {settings : Settings} {entries : Dictionary Value}
    (h : settings.targetOptions = .object entries) (extra : Dictionary Value) :
    (settings.withTargetOptions extra).targetOptions =
      .object (Dictionary.merge entries extra) := by
  unfold withTargetOptions targetEntries
  rw [h]

/-- The settings of schema classes for which nothing is given. -/
def standardNest : Settings where
  targetOptions := .object ({} : SchemaOptions).toEntries

/-- Entries that are no settings are laid as they are. -/
theorem lay_of_not_mem {base extra : Dictionary Value} (h : optionsName ∉ Dictionary.keys extra) :
    lay base extra = .ok (base.merge extra) := by
  induction extra generalizing base with
  | nil => rfl
  | cons entry rest ih =>
    rw [Dictionary.keys_cons, List.mem_cons, not_or] at h
    rw [lay_cons, layEntry_eq, if_neg (Ne.symm h.1)]
    exact ih h.2

theorem defaults_language : defaults Nest.language = standardNest.toEntries := by
  unfold defaults
  rw [if_pos (by decide)]
  rfl

theorem isTyped_standardNest : standardNest.IsTyped := by
  intro name expected h
  simp only [declared, List.mem_cons, Prod.mk.injEq, List.not_mem_nil, or_false] at h
  rcases h with ⟨rfl, rfl⟩ | ⟨rfl, rfl⟩ | ⟨rfl, rfl⟩ | ⟨rfl, rfl⟩ | ⟨rfl, rfl⟩ | ⟨rfl, rfl⟩ |
    ⟨rfl, rfl⟩
  all_goals exact ⟨_, rfl, rfl⟩

/-- No option is a setting. -/
theorem isDeclared_of_mem_options (ho : SchemaOptions.AreTyped options) {name : String}
    (h : name ∈ Dictionary.keys options) : isDeclared name = false := by
  have hnone : ∀ name ∈ Dictionary.keys declared,
      ({} : SchemaOptions).toEntries.get? name = none := by decide
  by_contra hn
  exact ho.not_mem_keys (hnone name (isDeclared_iff.1 (by simpa using hn))) h

/-- Typed options are laid over the standard ones. -/
theorem ofLayers_options (ho : SchemaOptions.AreTyped options) :
    ofLayers Nest.language [] options = .ok (standardNest.withTargetOptions options) := by
  let entries := standardNest.toEntries ++ options
  have hdeclared : ∀ name, isDeclared name →
      entries.get? name = standardNest.toEntries.get? name := by
    intro name hn
    have hnone : options.get? name = none := Dictionary.get?_eq_none_iff.2 fun hm => by
      rw [isDeclared_of_mem_options ho hm] at hn
      cases hn
    rw [Dictionary.lookup_append, hnone, Option.or_none]
  have hlay : lay (defaults Nest.language) options = .ok entries := by
    have hno : optionsName ∉ Dictionary.keys options := ho.not_mem_keys (by decide)
    rw [lay_of_not_mem hno, defaults_language, Dictionary.merge_eq_append ho.nodup_keys]
    intro key hkey hm
    have hsetting : isDeclared key = true := isDeclared_iff.2 hkey
    rw [isDeclared_of_mem_options ho hm] at hsetting
    cases hsetting
  have hfilter : entries.filter (!isDeclared ·.1) = options := by
    have hoptions : ∀ entry ∈ options, (!isDeclared entry.1) = true := fun entry he => by
      rw [isDeclared_of_mem_options ho (List.mem_map_of_mem he)]
      rfl
    rw [List.filter_append, List.filter_eq_self.2 hoptions]
    rfl
  have hresolve : resolve entries = .ok (standardNest.withTargetOptions options) := by
    unfold resolve
    rw [checkTypes_of_isTyped isTyped_standardNest hdeclared, ofEntries_eq hdeclared, hfilter]
    cases options with
    | nil => rfl
    | cons entry rest => rfl
  show (lay (defaults Nest.language) options >>= resolve) = _
  rw [hlay]
  exact hresolve

end Settings

/-! ## Generators of settings -/

namespace Nest

variable {settings : Settings} {entries options : Dictionary Value} {made : Generator}

/-- The generator of settings whose target options are read as `options` and extend the type table
to `types`. -/
def assembled (settings : Settings) (options : SchemaOptions) (types : TypeTable) : Generator where
  className := "NestJSGenerator"
  language := language
  settings := settings
  types := types
  rules := OverrideRule.standard
  templates := Templates.own.names
  emit := emit settings options Templates.own
  nameWarnings := ClassName.warnings

theorem generator_eq_ok_iff (h : settings.targetOptions = .object entries) :
    generator settings = .ok made ↔ (SchemaOptions.ofEntries entries).check = .ok () ∧
      ∃ types, TypeTable.primitive.withSetting (SchemaOptions.ofEntries entries).typeMap =
        .ok types ∧ made = assembled settings (SchemaOptions.ofEntries entries) types := by
  unfold generator
  rw [h]
  constructor
  · intro hmade
    obtain ⟨options, ho, hmade⟩ := Outcome.bind_eq_ok_iff.1 hmade
    obtain rfl := Except.ok.inj ho
    obtain ⟨_, hcheck, hmade⟩ := Outcome.bind_eq_ok_iff.1 hmade
    obtain ⟨types, htypes, hmade⟩ := Outcome.bind_eq_ok_iff.1 hmade
    exact ⟨hcheck, types, htypes, (Except.ok.inj hmade).symm⟩
  · rintro ⟨hcheck, types, htypes, rfl⟩
    refine Outcome.bind_eq_ok_iff.2 ⟨_, rfl, Outcome.bind_eq_ok_iff.2 ⟨(), hcheck, ?_⟩⟩
    exact Outcome.bind_eq_ok_iff.2 ⟨types, htypes, rfl⟩

/-- Where the options pass, there is a generator. -/
theorem exists_generator (h : settings.targetOptions = .object entries)
    (hcheck : (SchemaOptions.ofEntries entries).check = .ok ()) :
    ∃ made, generator settings = .ok made := by
  obtain ⟨-, hkind⟩ := check_eq_ok_iff.1 hcheck
  have htypes : ∃ types,
      TypeTable.primitive.withSetting (SchemaOptions.ofEntries entries).typeMap = .ok types := by
    cases hmap : (SchemaOptions.ofEntries entries).typeMap with
    | object extra =>
      cases extra with
      | nil => exact ⟨_, rfl⟩
      | cons entry rest => exact ⟨_, rfl⟩
    | _ => simp [hmap, Value.kind] at hkind
  obtain ⟨types, ht⟩ := htypes
  exact ⟨_, (generator_eq_ok_iff h).2 ⟨hcheck, types, ht, rfl⟩⟩

/-- Typed options beside settings are left aside. -/
theorem make_some (settings : Settings) (ho : SchemaOptions.AreTyped options) :
    make (some settings) options = generator settings := by
  have hnone : options.get? settingsOption = none :=
    Dictionary.get?_eq_none_iff.2 (ho.not_mem_keys (by decide))
  unfold make
  rw [hnone]

/-- Typed options alone make a generator, that of the standard settings with the options laid over
them. -/
theorem make_none (ho : SchemaOptions.AreTyped options) :
    make none options = generator (Settings.standardNest.withTargetOptions options) ∧
      ∃ made, make none options = .ok made := by
  have hnone : options.get? settingsOption = none :=
    Dictionary.get?_eq_none_iff.2 (ho.not_mem_keys (by decide))
  have hmake : make none options =
      generator (Settings.standardNest.withTargetOptions options) := by
    unfold make
    rw [hnone]
    show (Settings.ofLayers language [] options >>= fun settings => generator settings) = _
    rw [Settings.ofLayers_options ho]
    rfl
  have hstandard : (SchemaOptions.ofEntries ({} : SchemaOptions).toEntries).check = .ok () := rfl
  refine ⟨hmake, ?_⟩
  rw [hmake]
  exact exists_generator rfl (SchemaOptions.check_ofEntries_merge hstandard ho)

end Nest

end StructSchema
