import StructSchema.Proofs.SettingsPrecedence
import StructSchema.Proofs.StorePaths

/-!
# Faults of settings

Loading settings ends in one of three ways: with settings of the declared types, with a refusal of
the settings, or with a fault of another kind. The last happens in exactly four cases, which are
those of `Settings.Escapes`: a path that is too long, a file that is no text, a text beyond the
limits of the reader, and target options of the file that are no object and meet explicit ones.

The command line reports refused settings and leaves the store alone: `load_ends`.
-/

namespace StructSchema

namespace FileStore

variable {store : FileStore} {path : Path} {fault : Fault}

/-- A path is refused in its own name. -/
theorem find_error (h : store.find path = .error fault) :
    fault = .nullCharacter ∨ ∃ cause, fault = .refused cause path := by
  unfold find at h
  rcases Outcome.bind_eq_error_iff.1 h with h | ⟨l, -, h⟩
  · unfold locate at h
    dsimp only at h
    split_ifs at h
    · cases h
      exact .inl rfl
    · cases h
      exact .inr ⟨_, rfl⟩
    · obtain ⟨cause, -, rfl⟩ := Outcome.mapError_eq_error_iff.1 h
      exact .inr ⟨cause, rfl⟩
  · split at h
    · cases h
    · cases h
      exact .inr ⟨_, rfl⟩

/-- Only a path that is too long cannot be looked for. -/
theorem isPresent_eq_error_iff : store.isPresent path = .error fault ↔
    fault = .refused .nameTooLong path ∧ store.find path = .error fault := by
  unfold isPresent status
  constructor
  · intro h
    cases hfind : store.find path with
    | ok found => simp [hfind, Except.map] at h
    | error first =>
      rcases find_error hfind with rfl | ⟨cause, rfl⟩
      · simp [hfind, Except.map] at h
      · cases cause <;> simp_all [Except.map]
  · rintro ⟨rfl, h⟩
    simp [h, Except.map]

/-- A file that can be read is there. -/
theorem isPresent_of_read {octets : List UInt8} (h : store.read path = .ok octets) :
    store.isPresent path = .ok true := by
  unfold read at h
  obtain ⟨⟨l, entry⟩, hfind, -⟩ := Outcome.bind_eq_ok_iff.1 h
  obtain rfl := eq_location_of_locate (find_eq_ok_iff.1 hfind).1
  unfold isPresent
  rw [status_eq_some_iff.2 hfind]
  rfl

end FileStore

namespace Settings

variable {store : FileStore} {path : Path} {fault : Fault}
  {base extra laid entries : Dictionary Value}
  {target : String} {file explicit : Dictionary Value} {settings : Settings}

/-! ## The entries of a file -/

/-- The ways in which a file gives neither entries nor a refusal of the settings. -/
inductive FileEscape (store : FileStore) (path : Path) : Fault → Prop
  | nameTooLong (h : store.find path = .error (.refused .nameTooLong path)) :
      FileEscape store path (.store (.refused .nameTooLong path))
  | undecodable {octets : List UInt8} {problem : Text.Utf8.Fault}
      (hsuffix : Text.lower path.suffix = ".json") (hread : store.read path = .ok octets)
      (hdecode : Text.Utf8.decode octets = .error problem) :
      FileEscape store path (.decoding problem)
  | beyondLimits {octets : List UInt8} {text : List Char} {problem : Json.Fault}
      (hsuffix : Text.lower path.suffix = ".json") (hread : store.read path = .ok octets)
      (hdecode : Text.Utf8.decode octets = .ok text)
      (hjson : Json.read (String.ofList (Text.unifyLineEnds text)) = .error problem)
      (hlimit : ∀ lack position line column, problem ≠ .malformed lack position line column) :
      FileEscape store path (.json problem)

theorem FileEscape.readFile (h : FileEscape store path fault) :
    readFile store path = .error fault := by
  cases h with
  | nameTooLong h =>
    have hpresent := FileStore.isPresent_eq_error_iff.2 ⟨rfl, h⟩
    unfold Settings.readFile
    rw [hpresent]
    rfl
  | undecodable hsuffix hread hdecode =>
    unfold Settings.readFile
    rw [FileStore.isPresent_of_read hread, hread]
    simp [hsuffix, hdecode, bind, Except.bind]
  | @beyondLimits _ _ problem hsuffix hread hdecode hjson hlimit =>
    unfold Settings.readFile
    rw [FileStore.isPresent_of_read hread, hread]
    simp only [hsuffix, hdecode, hjson, Outcome.mapError_ok, bind, Except.bind]
    cases problem with
    | malformed lack position line column => exact absurd rfl (hlimit lack position line column)
    | integerTooLong digits => rfl
    | tooDeep container => rfl

/-- Something other than an object stands under `language_config`. -/
def UnfitOptions (layer : Dictionary Value) (value : Value) : Prop :=
  layer.get? optionsName = some value ∧ ∀ options, value ≠ .object options

theorem joinOptions_eq_error_iff {old : Option Value} {value : Value} :
    joinOptions old value = .error fault ↔ ∃ more other, value = .object more ∧ old = some other ∧
      (∀ options, other ≠ .object options) ∧
      fault = .misuse (.noAttribute other.kind "update") := by
  unfold joinOptions
  constructor
  · intro h
    split at h
    · rename_i more
      split at h
      · cases h
      · rename_i hno
        cases h
        cases old with
        | none => exact absurd rfl (hno [])
        | some other => exact ⟨more, other, rfl, rfl, hno, rfl⟩
    · cases h
  · rintro ⟨more, other, rfl, rfl, hno, rfl⟩
    cases other with
    | object options => exact absurd rfl (hno options)
    | _ => rfl

theorem exists_of_joinOptions_object {old : Option Value} {more : Dictionary Value} {put : Value}
    (h : joinOptions old (.object more) = .ok put) : ∃ options, put = .object options := by
  unfold joinOptions at h
  dsimp only at h
  split at h
  · cases h
    exact ⟨_, rfl⟩
  · cases h

/-- Laying a layer fails only where its target options are joined. -/
theorem lay_eq_error_iff (hd : (Dictionary.keys extra).Nodup) :
    lay base extra = .error fault ↔ ∃ value, extra.get? optionsName = some value ∧
      joinOptions (base.get? optionsName) value = .error fault := by
  induction extra generalizing base with
  | nil =>
    constructor
    · intro h
      cases h
    · rintro ⟨value, hv, -⟩
      cases hv
  | cons entry rest ih =>
    obtain ⟨name, value⟩ := entry
    rw [Dictionary.keys_cons, List.nodup_cons] at hd
    rw [lay_cons, Outcome.bind_eq_error_iff, Dictionary.get?_cons]
    by_cases hn : optionsName = name
    · subst hn
      have hrest : ∀ b, lay b rest ≠ .error fault := by
        intro b hb
        obtain ⟨v, hv, -⟩ := (ih hd.2).1 hb
        rw [Dictionary.get?_eq_none_iff.2 hd.1] at hv
        cases hv
      rw [layEntry_eq, if_pos rfl, if_pos rfl]
      cases hjoin : joinOptions (base.get? optionsName) value with
      | error first => simp [Except.map, hjoin]
      | ok put => simp [Except.map, hjoin, hrest]
    · have hlaid : layEntry base name value = .ok (base.insert name value) := by
        rw [layEntry_eq, if_neg (Ne.symm hn)]
      rw [hlaid, if_neg hn]
      simp only [reduceCtorEq, false_or, Except.ok.injEq, exists_eq_left']
      rw [ih hd.2, Dictionary.get?_insert, if_neg hn]

theorem optionsFit_defaults (target : String) : OptionsFit (defaults target) := by
  intro value hv
  unfold defaults at hv
  split_ifs at hv
  · cases hv
    exact ⟨_, rfl⟩
  · cases hv

/-- A file can be laid over the defaults. -/
theorem exists_lay_defaults (target : String) (hd : (Dictionary.keys file).Nodup) :
    ∃ under, lay (defaults target) file = .ok under := by
  by_contra hno
  obtain ⟨fault, h⟩ := Outcome.exists_error_iff.2 hno
  obtain ⟨value, -, hjoin⟩ := (lay_eq_error_iff hd).1 h
  obtain ⟨more, other, -, hother, hunfit, -⟩ := joinOptions_eq_error_iff.1 hjoin
  obtain ⟨options, rfl⟩ := optionsFit_defaults target other hother
  exact hunfit options rfl

/-- What stands under `language_config` after a file is laid over the defaults is no object exactly
when the file has it there. -/
theorem unfitOptions_lay_defaults {value : Value} (hd : (Dictionary.keys file).Nodup)
    (h : lay (defaults target) file = .ok laid) :
    UnfitOptions laid value ↔ UnfitOptions file value := by
  unfold UnfitOptions
  cases hv : file.get? optionsName with
  | none =>
    rw [get?_lay_of_none h hv]
    constructor
    · rintro ⟨hdefault, hunfit⟩
      obtain ⟨options, rfl⟩ := optionsFit_defaults target value hdefault
      exact absurd rfl (hunfit options)
    · rintro ⟨hnone, -⟩
      cases hnone
  | some given =>
    obtain ⟨put, hput, hjoin⟩ := get?_lay_of_some hd h hv
    rw [if_pos rfl] at hjoin
    rw [hput]
    cases given with
    | object more =>
      obtain ⟨options, rfl⟩ := exists_of_joinOptions_object hjoin
      constructor
      · rintro ⟨he, hunfit⟩
        exact absurd (Option.some.inj he).symm (hunfit options)
      · rintro ⟨he, hunfit⟩
        exact absurd (Option.some.inj he).symm (hunfit more)
    | _ =>
      cases hjoin
      rfl

/-! ## The settings of layers -/

theorem resolve_error (h : resolve entries = .error fault) : fault.kind = .settings := by
  unfold resolve at h
  rcases Outcome.bind_eq_error_iff.1 h with h | ⟨_, -, h⟩
  · unfold checkTypes at h
    split at h
    · cases h
      rfl
    · cases h
  · dsimp only at h
    split at h
    all_goals cases h

/-- Layers fail without a refusal of the settings exactly when explicit target options are to be
joined with something of the file that is no object. -/
theorem ofLayers_error_iff (hfile : (Dictionary.keys file).Nodup)
    (hexplicit : (Dictionary.keys explicit).Nodup) :
    (ofLayers target file explicit = .error fault ∧ fault.kind ≠ .settings) ↔
      ∃ value more, UnfitOptions file value ∧ explicit.get? optionsName = some (.object more) ∧
        fault = .misuse (.noAttribute value.kind "update") := by
  obtain ⟨under, hunder⟩ := exists_lay_defaults target hfile
  have hlay : lay under explicit = .error fault ↔ ∃ value more, UnfitOptions file value ∧
      explicit.get? optionsName = some (.object more) ∧
      fault = .misuse (.noAttribute value.kind "update") := by
    rw [lay_eq_error_iff hexplicit]
    simp only [joinOptions_eq_error_iff, ← unfitOptions_lay_defaults hfile hunder]
    constructor
    · rintro ⟨_, hmore, more, value, rfl, hvalue, hunfit, rfl⟩
      exact ⟨value, more, ⟨hvalue, hunfit⟩, hmore, rfl⟩
    · rintro ⟨value, more, ⟨hvalue, hunfit⟩, hmore, rfl⟩
      exact ⟨_, hmore, more, value, rfl, hvalue, hunfit, rfl⟩
  unfold ofLayers
  rw [hunder, ← hlay]
  show (lay under explicit >>= resolve) = .error fault ∧ _ ↔ _
  rw [Outcome.bind_eq_error_iff]
  constructor
  · rintro ⟨h | ⟨all, -, h⟩, hkind⟩
    · exact h
    · exact absurd (resolve_error h) hkind
  · intro h
    refine ⟨.inl h, ?_⟩
    obtain ⟨value, more, -, -, rfl⟩ := hlay.1 h
    exact nofun

/-- Every setting has its declared type. -/
def IsTyped (settings : Settings) : Prop :=
  ∀ name expected, (name, expected) ∈ declared →
    ∃ value, settings.toEntries.get? name = some value ∧ expected.admits value = true

theorem admits_getD {name : String} {expected : Expected} {standard : Value}
    (hcheck : checkTypes entries = .ok ()) (hdeclared : (name, expected) ∈ declared)
    (hstandard : expected.admits standard = true) :
    expected.admits (entries.getD name standard) = true := by
  unfold Dictionary.getD
  cases hv : entries.get? name with
  | none => exact hstandard
  | some value => exact (checkTypes_ok_iff entries).1 hcheck name expected hdeclared value hv

theorem isTyped_of_resolve (h : resolve entries = .ok settings) : settings.IsTyped := by
  obtain ⟨-, rfl⟩ := resolve_ok h
  unfold resolve at h
  obtain ⟨_, hcheck, -⟩ := Outcome.bind_eq_ok_iff.1 h
  intro name expected hm
  have hcases := hm
  simp only [declared, List.mem_cons, List.not_mem_nil, or_false, Prod.mk.injEq] at hcases
  rcases hcases with ⟨rfl, rfl⟩ | ⟨rfl, rfl⟩ | ⟨rfl, rfl⟩ | ⟨rfl, rfl⟩ | ⟨rfl, rfl⟩ |
    ⟨rfl, rfl⟩ | ⟨rfl, rfl⟩
  case inr.inr.inr.inr.inr.inr => exact ⟨_, rfl, rfl⟩
  all_goals exact ⟨_, rfl, admits_getD hcheck hm rfl⟩

theorem isTyped_of_load {from? : Option Path}
    (h : load store target explicit from? = .ok settings) : settings.IsTyped := by
  have hlayers : ∃ file, ofLayers target file explicit = .ok settings := by
    cases from? with
    | none => exact ⟨[], h⟩
    | some path =>
      obtain ⟨file, -, h⟩ := Outcome.bind_eq_ok_iff.1 h
      exact ⟨file, h⟩
  obtain ⟨file, h⟩ := hlayers
  obtain ⟨_, _, -, -, h⟩ := ofLayers_ok h
  exact isTyped_of_resolve h

end Settings

/-! ## The command line -/

namespace CommandLine

/-- Options that ask for the conversion of a directory for a target. -/
structure Options.AsksFor (options : Options) (input target : String) : Prop where
  listsNothing : options.listTargets = false
  input : nonEmpty options.input = some input
  target : options.target = some target

theorem Options.AsksFor.perform {options : Options} {input target : String}
    (h : options.AsksFor input target) (store : FileStore) :
    perform store options = convert store options input target := by
  unfold CommandLine.perform
  rw [h.listsNothing, h.input, h.target]
  rfl

end CommandLine

namespace Settings

open CommandLine

/-- The explicit entries that can be given: those of the flags, or an object that a text writes. -/
def Given (explicit : Dictionary Value) : Prop :=
  (∃ options, explicit = explicitEntries options) ∨
    ∃ text, Json.read text = .ok (.object explicit)

variable {store : FileStore} {target : String} {explicit : Dictionary Value}

theorem Given.distinct_keys (h : Given explicit) : (Dictionary.keys explicit).Nodup := by
  rcases h with ⟨options, rfl⟩ | ⟨text, h⟩
  · exact (keyed_explicitEntries options).distinct_keys
  · exact (Json.keyed_of_read h).distinct_keys

end Settings

end StructSchema
