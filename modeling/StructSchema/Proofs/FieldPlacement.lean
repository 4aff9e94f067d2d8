import Mathlib.Data.Finset.Card
import Mathlib.Data.List.Nodup
import Mathlib.Tactic.ByContra
import Mathlib.Tactic.NthRewrite
import StructSchema.Proofs.DistinctKeys
import StructSchema.SchemaModel

/-!
# Placing fields in a model

The positions of a draft tell where each name stands among its fields, `SchemaModel.Draft.Indexed`,
so a field of a new name goes to the end, `Draft.Indexed.put_of_not_mem`, and one of a known name
goes where that name stands, `Draft.Indexed.put_lastWins_of_mem`. Where no name repeats, both
policies give the fields as declared: `build_of_nodup`. `DuplicatePolicy.refuse` fails at the first
repeated name: `build_refuse`. `DuplicatePolicy.lastWins` keeps the names in order of first
occurrence, each with the last field of that name: `build_lastWins`.
-/

namespace StructSchema

variable {table : TypeTable} {rules : List OverrideRule}

@[simp] theorem SchemaField.name_ofDescriptor (table : TypeTable) (rules : List OverrideRule)
    (field : FieldDescriptor) : (ofDescriptor table rules field).name = field.name := by
  unfold ofDescriptor
  cases OverrideRule.first? rules field <;> rfl

@[simp] theorem SchemaField.sourceType_ofDescriptor (table : TypeTable)
    (rules : List OverrideRule) (field : FieldDescriptor) :
    (ofDescriptor table rules field).sourceType = some field.sourceType := by
  unfold ofDescriptor
  cases OverrideRule.first? rules field <;> rfl

namespace SchemaModel

variable {policy : DuplicatePolicy} {model : SchemaModel} {field : SchemaField}
  {fields : List SchemaField} {structName : String} {declared : List FieldDescriptor} {i : Nat}

/-! ## Names of fields -/

theorem eraseDups_concat (names : List String) (name : String) : (names ++ [name]).eraseDups =
    if name ∈ names then names.eraseDups else names.eraseDups ++ [name] := by
  rw [List.eraseDups_append]
  by_cases h : name ∈ names
  · simp [List.removeAll, h]
  · simp [List.removeAll, h, List.eraseDups_cons]

theorem fieldNames_getElem? (model : SchemaModel) (i : Nat) :
    model.fieldNames[i]? = model.fields[i]?.map (·.name) := List.getElem?_map

theorem find?_name_cons (field : SchemaField) (fields : List SchemaField) (name : String) :
    (field :: fields).find? (·.name == name) =
      if field.name = name then some field else fields.find? (·.name == name) := by
  by_cases h : field.name = name
  · rw [if_pos h, List.find?_cons_of_pos (by simpa using h)]
  · rw [if_neg h, List.find?_cons_of_neg (by simpa using h)]

/-- A field at the end is found by its name if no other one is. -/
theorem field?_add (model : SchemaModel) (field : SchemaField) (name : String) :
    (model.add field).field? name =
      (model.field? name).or (if field.name = name then some field else none) := by
  show (model.fields ++ [field]).find? (·.name == name) = _
  rw [List.find?_append, find?_name_cons]
  rfl

theorem field?_eq_none_iff {name : String} : model.field? name = none ↔ name ∉ model.fieldNames := by
  simp [field?, fieldNames]

theorem name_ne_of_nodup {before after : List SchemaField}
    (h : ((before ++ field :: after).map (·.name)).Nodup) :
    ∀ old ∈ before, old.name ≠ field.name := by
  rw [List.map_append, List.map_cons, List.nodup_append] at h
  exact fun old ho => h.2.2 _ (List.mem_map_of_mem ho) _ List.mem_cons_self

/-- A field in the place of its name is found by it, and all others as before. -/
theorem field?_setAt (hnodup : model.fieldNames.Nodup)
    (h : model.fieldNames[i]? = some field.name) (name : String) :
    (model.setAt i field).field? name =
      if field.name = name then some field else model.field? name := by
  have hi : i < model.fields.length := by
    obtain ⟨hi, -⟩ := List.getElem?_eq_some_iff.1 h
    rwa [fieldNames, List.length_map] at hi
  have hsplit : model.fields = model.fields.take i ++ model.fields[i] :: model.fields.drop (i + 1) := by
    rw [List.getElem_cons_drop, List.take_append_drop]
  have hold : model.fields[i].name = field.name := by
    rw [fieldNames_getElem?, List.getElem?_eq_getElem hi] at h
    exact Option.some.inj h
  have hbefore : ∀ old ∈ model.fields.take i, old.name ≠ field.name := by
    rw [fieldNames, hsplit] at hnodup
    rw [← hold]
    exact name_ne_of_nodup hnodup
  show (model.fields.set i field).find? (·.name == name) = _
  unfold field?
  rw [List.set_eq_take_append_cons_drop, if_pos hi]
  nth_rewrite 3 [hsplit]
  rw [List.find?_append, List.find?_append, find?_name_cons, find?_name_cons, hold]
  by_cases hn : field.name = name
  · have hnone : (model.fields.take i).find? (·.name == name) = none := by
      rw [List.find?_eq_none]
      intro old ho
      rw [beq_iff_eq, ← hn]
      exact hbefore old ho
    rw [hnone, if_pos hn, if_pos hn]
    rfl
  · rw [if_neg hn, if_neg hn, if_neg hn]

/-! ## One field -/

namespace Draft

variable {draft next : Draft}

/-- The positions of a draft tell where each name stands among its fields. -/
def Indexed (draft : Draft) : Prop :=
  ∀ name i, draft.positions.get? name = some i ↔ draft.model.fieldNames[i]? = some name

theorem indexed_empty (structName : String) : (empty structName).Indexed := by
  intro name i
  simp [empty, fieldNames]

theorem Indexed.nodup (hd : draft.Indexed) : draft.model.fieldNames.Nodup := by
  rw [List.nodup_iff_getElem?_ne_getElem?]
  intro i j hij hj he
  have hjth := List.getElem?_eq_getElem hj
  have hat := (hd _ j).2 hjth
  rw [(hd _ i).2 (he.trans hjth)] at hat
  have := Option.some.inj hat
  omega

theorem Indexed.get?_eq_none_iff (hd : draft.Indexed) {name : String} :
    draft.positions.get? name = none ↔ name ∉ draft.model.fieldNames := by
  rw [Option.eq_none_iff_forall_ne_some, List.mem_iff_getElem?]
  simp only [ne_eq, hd name, not_exists]

/-- A field of a new name goes to the end. -/
theorem Indexed.put_of_not_mem (hd : draft.Indexed) (policy : DuplicatePolicy)
    (h : field.name ∉ draft.model.fieldNames) :
    ∃ next, put policy draft field = .ok next ∧ next.model = draft.model.add field ∧
      next.Indexed := by
  have hnone := hd.get?_eq_none_iff.2 h
  refine ⟨_, by rw [put, hnone], rfl, ?_⟩
  intro name i
  show (draft.positions.insert field.name draft.model.fields.length).get? name = some i ↔ _
  have hlength : draft.model.fieldNames.length = draft.model.fields.length := List.length_map _
  rw [Dictionary.get?_insert, fieldNames_add, List.getElem?_append, ← hlength]
  by_cases hn : name = field.name
  · rw [if_pos hn]
    split
    · rename_i hi
      have hne : draft.model.fieldNames[i]? ≠ some name := by
        intro he
        exact h (hn ▸ List.mem_of_getElem? he)
      simp only [Option.some.injEq, hne, iff_false]
      omega
    · rename_i hi
      rw [List.getElem?_singleton, hn]
      simp only [Option.some.injEq, ite_eq_left_iff, reduceCtorEq, imp_false, not_not]
      omega
  · rw [if_neg hn, hd name i]
    split
    · rfl
    · rename_i hi
      rw [List.getElem?_eq_none (by omega), List.getElem?_singleton]
      simp [Ne.symm hn]

theorem Indexed.exists_position (hd : draft.Indexed) (h : field.name ∈ draft.model.fieldNames) :
    ∃ i, draft.positions.get? field.name = some i ∧
      draft.model.fieldNames[i]? = some field.name := by
  obtain ⟨i, hi⟩ := List.mem_iff_getElem?.1 h
  exact ⟨i, (hd _ i).2 hi, hi⟩

theorem Indexed.put_refuse_of_mem (hd : draft.Indexed) (h : field.name ∈ draft.model.fieldNames) :
    put .refuse draft field = .error (.duplicateField draft.model.structName field.name) := by
  obtain ⟨i, hi, -⟩ := hd.exists_position h
  rw [put, hi]

/-- A field of a known name goes where that name stands. -/
theorem Indexed.put_lastWins_of_mem (hd : draft.Indexed)
    (h : field.name ∈ draft.model.fieldNames) :
    ∃ i next, draft.model.fieldNames[i]? = some field.name ∧
      put .lastWins draft field = .ok next ∧ next.model = draft.model.setAt i field ∧
      next.Indexed := by
  obtain ⟨i, hi, hname⟩ := hd.exists_position h
  refine ⟨i, _, hname, by rw [put, hi], rfl, ?_⟩
  intro name j
  rw [fieldNames_setAt hname]
  exact hd name j

/-- A draft keeps its name, and its fields were put or stood in it before. -/
theorem structName_put (h : put policy draft field = .ok next) :
    next.model.structName = draft.model.structName ∧
      ∀ old ∈ next.model.fields, old = field ∨ old ∈ draft.model.fields := by
  unfold put at h
  split at h
  · cases policy with
    | refuse => cases h
    | lastWins =>
      cases h
      exact ⟨rfl, fun old ho => (List.mem_or_eq_of_mem_set ho).symm⟩
  · cases h
    refine ⟨rfl, fun old ho => ?_⟩
    rcases List.mem_append.1 ho with ho | ho
    · exact .inr ho
    · exact .inl (List.mem_singleton.1 ho)

/-! ## All fields -/

/-- Puts fields into the draft of a model without fields, one after the other. -/
def fill (policy : DuplicatePolicy) (structName : String) (fields : List SchemaField) :
    Except Fault Draft := fields.foldlM (put policy) (empty structName)

theorem fill_concat (policy : DuplicatePolicy) (structName : String) (fields : List SchemaField)
    (field : SchemaField) : fill policy structName (fields ++ [field]) =
      fill policy structName fields >>= fun draft => put policy draft field := by
  unfold fill
  rw [List.foldlM_append]
  simp

/-- Fields of distinct names are put in order. -/
theorem fill_of_nodup (policy : DuplicatePolicy) (structName : String)
    (h : (fields.map (·.name)).Nodup) :
    ∃ draft, fill policy structName fields = .ok draft ∧ draft.model = ⟨structName, fields⟩ ∧
      draft.Indexed := by
  induction fields using List.reverseRecOn with
  | nil => exact ⟨empty structName, rfl, rfl, indexed_empty structName⟩
  | append_singleton fields field ih =>
    rw [List.map_append, List.nodup_append] at h
    obtain ⟨draft, hfill, hmodel, hd⟩ := ih h.1
    have hnew : field.name ∉ draft.model.fieldNames := by
      intro hm
      rw [hmodel] at hm
      exact h.2.2 _ hm _ List.mem_cons_self rfl
    obtain ⟨next, hput, hnext, hindexed⟩ := hd.put_of_not_mem policy hnew
    refine ⟨next, ?_, ?_, hindexed⟩
    · rw [fill_concat, hfill]
      exact hput
    · rw [hnext, hmodel]
      rfl

/-- Under `refuse` the first repeated name is a fault. -/
theorem fill_refuse_of_mem {before : List SchemaField} (structName : String)
    (h : (before.map (·.name)).Nodup) (hm : field.name ∈ before.map (·.name))
    (after : List SchemaField) : fill .refuse structName (before ++ field :: after) =
      .error (.duplicateField structName field.name) := by
  obtain ⟨draft, hfill, hmodel, hd⟩ := fill_of_nodup .refuse structName h
  have hput : put .refuse draft field = .error (.duplicateField structName field.name) := by
    have hmem : field.name ∈ draft.model.fieldNames := by rwa [hmodel]
    rw [hd.put_refuse_of_mem hmem, hmodel]
  unfold fill at hfill ⊢
  rw [List.foldlM_append, hfill]
  show (put .refuse draft field >>= _) = _
  rw [hput]
  rfl

/-- Under `lastWins` the names stand in order of their first occurrence, and each has the last field
of that name. -/
theorem fill_lastWins (structName : String) (fields : List SchemaField) :
    ∃ draft, fill .lastWins structName fields = .ok draft ∧ draft.Indexed ∧
      draft.model.fieldNames = (fields.map (·.name)).eraseDups ∧
      ∀ name, draft.model.field? name = fields.reverse.find? (·.name == name) := by
  induction fields using List.reverseRecOn with
  | nil => exact ⟨empty structName, rfl, indexed_empty structName, rfl, fun name => rfl⟩
  | append_singleton fields field ih =>
    obtain ⟨draft, hfill, hd, hnames, hfields⟩ := ih
    have hmem : field.name ∈ draft.model.fieldNames ↔ field.name ∈ fields.map (·.name) := by
      rw [hnames, List.mem_eraseDups]
    have hfind : ∀ name, (fields ++ [field]).reverse.find? (·.name == name) =
        if field.name = name then some field else draft.model.field? name := by
      intro name
      rw [List.reverse_concat, find?_name_cons, hfields]
    rw [List.map_append, List.map_singleton, eraseDups_concat, ← hnames]
    by_cases hm : field.name ∈ draft.model.fieldNames
    · obtain ⟨i, next, hi, hput, hnext, hindexed⟩ := hd.put_lastWins_of_mem hm
      refine ⟨next, ?_, hindexed, ?_, fun name => ?_⟩
      · rw [fill_concat, hfill]
        exact hput
      · rw [hnext, fieldNames_setAt hi, if_pos (hmem.1 hm)]
      · rw [hnext, field?_setAt hd.nodup hi, hfind]
    · obtain ⟨next, hput, hnext, hindexed⟩ := hd.put_of_not_mem .lastWins hm
      refine ⟨next, ?_, hindexed, ?_, fun name => ?_⟩
      · rw [fill_concat, hfill]
        exact hput
      · rw [hnext, fieldNames_add, if_neg (mt hmem.2 hm)]
      · rw [hnext, field?_add, hfind]
        by_cases hn : field.name = name
        · rw [if_pos hn, if_pos hn, field?_eq_none_iff.2 (hn ▸ hm)]
          rfl
        · rw [if_neg hn, if_neg hn, Option.or_none]

/-- Filling keeps the name of the struct, and what holds of every field. -/
theorem fill_invariant {holds : SchemaField → Prop} (hf : ∀ field ∈ fields, holds field)
    (h : fill policy structName fields = .ok draft) :
    draft.model.structName = structName ∧ ∀ field ∈ draft.model.fields, holds field := by
  induction fields using List.reverseRecOn generalizing draft with
  | nil =>
    cases h
    exact ⟨rfl, fun field hm => absurd hm List.not_mem_nil⟩
  | append_singleton fields field ih =>
    rw [fill_concat] at h
    obtain ⟨before, hbefore, hput⟩ := Outcome.bind_eq_ok_iff.1 h
    obtain ⟨hname, hall⟩ := ih (fun old ho => hf old (List.mem_append_left _ ho)) hbefore
    obtain ⟨hkept, hold⟩ := structName_put hput
    refine ⟨hkept.trans hname, fun old ho => ?_⟩
    rcases hold old ho with rfl | ho
    · exact hf old (by simp)
    · exact hall old ho

end Draft

/-! ## The model of declared fields -/

theorem build_eq (structName : String) (declared : List FieldDescriptor) (table : TypeTable)
    (rules : List OverrideRule) (policy : DuplicatePolicy) :
    build structName declared table rules policy =
      (Draft.fill policy structName (declared.map (SchemaField.ofDescriptor table rules))).map
        (·.model) := rfl

/-- The names of the fields that a list of declared fields gives. -/
theorem map_name_ofDescriptor (declared : List FieldDescriptor) :
    (declared.map (SchemaField.ofDescriptor table rules)).map (·.name) =
      declared.map (·.name) := by
  rw [List.map_map]
  exact List.map_congr_left fun field _ => SchemaField.name_ofDescriptor table rules field

/-- Without repeated names the model has the fields as declared. -/
theorem build_of_nodup (h : (declared.map (·.name)).Nodup) :
    build structName declared table rules policy =
      .ok ⟨structName, declared.map (SchemaField.ofDescriptor table rules)⟩ := by
  have hnames : ((declared.map (SchemaField.ofDescriptor table rules)).map (·.name)).Nodup := by
    rwa [map_name_ofDescriptor]
  obtain ⟨draft, hfill, hmodel, -⟩ := Draft.fill_of_nodup policy structName hnames
  rw [build_eq, hfill, ← hmodel]
  rfl

/-- Under `refuse` the first repeated name is a fault. -/
theorem build_refuse {before : List FieldDescriptor} {field : FieldDescriptor}
    (h : (before.map (·.name)).Nodup) (hm : field.name ∈ before.map (·.name))
    (after : List FieldDescriptor) :
    build structName (before ++ field :: after) table rules .refuse =
      .error (.duplicateField structName field.name) := by
  have hnames : ((before.map (SchemaField.ofDescriptor table rules)).map (·.name)).Nodup := by
    rwa [map_name_ofDescriptor]
  have hmem : (SchemaField.ofDescriptor table rules field).name ∈
      (before.map (SchemaField.ofDescriptor table rules)).map (·.name) := by
    rwa [map_name_ofDescriptor, SchemaField.name_ofDescriptor]
  rw [build_eq, List.map_append, List.map_cons, Draft.fill_refuse_of_mem structName hnames hmem,
    SchemaField.name_ofDescriptor]
  rfl

/-- Where a name repeats, one repeats first. -/
theorem exists_first_repeated (h : ¬ (declared.map (·.name)).Nodup) :
    ∃ before field after, declared = before ++ field :: after ∧
      (before.map (·.name)).Nodup ∧ field.name ∈ before.map (·.name) := by
  induction declared using List.reverseRecOn with
  | nil => exact absurd List.nodup_nil h
  | append_singleton declared last ih =>
    by_cases hd : (declared.map (·.name)).Nodup
    · refine ⟨declared, last, [], rfl, hd, ?_⟩
      by_contra hm
      refine h ?_
      rw [List.map_append, List.map_singleton, List.nodup_append_comm]
      exact List.nodup_cons.2 ⟨hm, hd⟩
    · obtain ⟨before, field, after, rfl, hbefore, hm⟩ := ih hd
      exact ⟨before, field, after ++ [last], by simp, hbefore, hm⟩

/-- Under `refuse` there is a model exactly of distinct names. -/
theorem build_refuse_ok_iff :
    (∃ model, build structName declared table rules .refuse = .ok model) ↔
      (declared.map (·.name)).Nodup := by
  constructor
  · rintro ⟨model, hmodel⟩
    by_contra h
    obtain ⟨before, field, after, rfl, hbefore, hm⟩ := exists_first_repeated h
    rw [build_refuse hbefore hm] at hmodel
    cases hmodel
  · intro h
    exact ⟨_, build_of_nodup h⟩

/-- Under `lastWins` there is a model. Its names stand in order of their first occurrence, and each
has what the last declared field of that name gives. -/
theorem build_lastWins (structName : String) (declared : List FieldDescriptor)
    (table : TypeTable) (rules : List OverrideRule) :
    ∃ model, build structName declared table rules .lastWins = .ok model ∧
      model.fieldNames = (declared.map (·.name)).eraseDups ∧ model.fieldNames.Nodup ∧
      ∀ name, model.field? name = (declared.reverse.find? (·.name == name)).map
        (SchemaField.ofDescriptor table rules) := by
  obtain ⟨draft, hfill, hd, hnames, hfields⟩ :=
    Draft.fill_lastWins structName (declared.map (SchemaField.ofDescriptor table rules))
  refine ⟨draft.model, ?_, ?_, hd.nodup, fun name => ?_⟩
  · rw [build_eq, hfill]
    rfl
  · rw [hnames, map_name_ofDescriptor]
  · rw [hfields, ← List.map_reverse, List.find?_map]
    congr 2
    funext field
    exact congrArg (· == name) (SchemaField.name_ofDescriptor table rules field)

/-- Under `lastWins` a model has one field for each name. -/
theorem length_fields_of_lastWins
    (h : build structName declared table rules .lastWins = .ok model) :
    model.fields.length = (declared.map (·.name)).toFinset.card := by
  obtain ⟨built, hbuilt, hnames, hnodup, -⟩ := build_lastWins structName declared table rules
  rw [h] at hbuilt
  cases hbuilt
  have hset : (declared.map (·.name)).toFinset = model.fieldNames.toFinset := by
    ext name
    rw [List.mem_toFinset, List.mem_toFinset, hnames, List.mem_eraseDups]
  rw [hset, List.toFinset_card_of_nodup hnodup, fieldNames, List.length_map]

/-- A model keeps the name of the struct, and what holds of the fields that are declared. -/
theorem build_invariant {holds : SchemaField → Prop}
    (hd : ∀ field ∈ declared, holds (SchemaField.ofDescriptor table rules field))
    (h : build structName declared table rules policy = .ok model) :
    model.structName = structName ∧ ∀ field ∈ model.fields, holds field := by
  rw [build_eq] at h
  obtain ⟨draft, hfill, rfl⟩ := Outcome.map_eq_ok_iff.1 h
  refine Draft.fill_invariant (fun field hf => ?_) hfill
  obtain ⟨d, hm, rfl⟩ := List.mem_map.1 hf
  exact hd d hm

/-- Every field of a model has a source type. -/
theorem sourceType_of_build (h : build structName declared table rules policy = .ok model) :
    model.structName = structName ∧
      ∀ field ∈ model.fields, ∃ sourceType, field.sourceType = some sourceType :=
  build_invariant
    (fun d _ => ⟨d.sourceType, SchemaField.sourceType_ofDescriptor table rules d⟩) h

end SchemaModel

end StructSchema
