import StructSchema.Proofs.FieldPlacement

/-!
# Repeated names

`SchemaField.Emits` says what rules and a type table make of a declared field: the template of the
first rule that applies, or the target of its type. `SchemaModel.build_by_policy` says which of the
declared fields a model is made of when names repeat.
-/

namespace StructSchema

variable {table : TypeTable} {rules : List OverrideRule}

namespace SchemaField

/-- What rules and a type table make of a declared field. -/
inductive Emits (table : TypeTable) (rules : List OverrideRule) (declared : FieldDescriptor) :
    SchemaField → Prop where
  | byRule {before after : List OverrideRule} {rule : OverrideRule}
    (hrules : rules = before ++ rule :: after)
    (hbefore : ∀ earlier ∈ before, earlier.applies declared = false) (h : rule.applies declared) :
    Emits table rules declared
      { name := declared.name
        schemaType := rule.template.schemaType
        tsType := rule.template.tsType
        required := declared.required
        options := rule.template.options
        rule := some rule.name
        sourceType := some declared.sourceType }
  | byTable (hrules : ∀ rule ∈ rules, rule.applies declared = false) :
    Emits table rules declared
      { name := declared.name
        schemaType := table.resolve declared.sourceType
        tsType := table.resolve declared.sourceType
        required := declared.required
        options := []
        rule := none
        sourceType := some declared.sourceType }

theorem emits_ofDescriptor (table : TypeTable) (rules : List OverrideRule)
    (declared : FieldDescriptor) : Emits table rules declared (ofDescriptor table rules declared) := by
  unfold ofDescriptor
  cases hfirst : OverrideRule.first? rules declared with
  | some rule =>
    obtain ⟨h, before, after, hrules, hbefore⟩ := List.find?_eq_some_iff_append.1 hfirst
    refine .byRule hrules (fun earlier he => ?_) h
    simpa using hbefore earlier he
  | none =>
    refine .byTable fun rule hr => ?_
    simpa using List.find?_eq_none.1 hfirst rule hr

end SchemaField

namespace SchemaModel

variable {structName : String} {declared : List FieldDescriptor}

/-- Under `refuse` a fault names the first field whose name stands before it. -/
theorem build_refuse_eq_error_iff {fault : Fault} :
    build structName declared table rules .refuse = .error fault ↔
      ∃ before field after, declared = before ++ field :: after ∧
        (before.map (·.name)).Nodup ∧ field.name ∈ before.map (·.name) ∧
        fault = .duplicateField structName field.name := by
  constructor
  · intro h
    have hn : ¬ (declared.map (·.name)).Nodup := by
      intro hn
      rw [build_of_nodup hn] at h
      cases h
    obtain ⟨before, field, after, rfl, hbefore, hm⟩ := exists_first_repeated hn
    rw [build_refuse hbefore hm] at h
    cases h
    exact ⟨before, field, after, rfl, hbefore, hm, rfl⟩
  · rintro ⟨before, field, after, rfl, hbefore, hm, rfl⟩
    exact build_refuse hbefore hm after

/-- The first field of a name in a list read backwards is the last one of that name. -/
theorem exists_last_of_find?_reverse {name : String} {last : FieldDescriptor}
    (h : declared.reverse.find? (·.name == name) = some last) :
    ∃ before after, declared = before ++ last :: after ∧ last.name = name ∧
      ∀ later ∈ after, later.name ≠ name := by
  obtain ⟨hlast, later, earlier, hsplit, hlater⟩ := List.find?_eq_some_iff_append.1 h
  refine ⟨earlier.reverse, later.reverse, ?_, by simpa using hlast, fun field hf => ?_⟩
  · rw [← List.reverse_reverse declared, hsplit]
    simp
  · simpa using hlater field (List.mem_reverse.1 hf)

/-- With distinct names every field is found by its name. -/
theorem field?_of_mem {model : SchemaModel} {field : SchemaField} (h : model.fieldNames.Nodup)
    (hm : field ∈ model.fields) : model.field? field.name = some field := by
  obtain ⟨before, after, hsplit⟩ := List.append_of_mem hm
  refine List.find?_eq_some_iff_append.2 ⟨by simp, before, after, hsplit, fun old ho => ?_⟩
  rw [fieldNames, hsplit] at h
  simpa using name_ne_of_nodup h old ho

/-- **Repeated names.** Under `refuse` a model fails exactly if a name repeats, with the first field
whose name stands before it; else it has what each declared field gives, in order, and so it has
under `lastWins`. Under `lastWins` there always is a model: its names are those declared, each where
it stands first, and each has what the last declared field of that name gives. -/
theorem build_by_policy (structName : String) (declared : List FieldDescriptor)
    (table : TypeTable) (rules : List OverrideRule) :
    (∀ fault, build structName declared table rules .refuse = .error fault ↔
      ∃ before field after, declared = before ++ field :: after ∧
        (before.map (·.name)).Nodup ∧ field.name ∈ before.map (·.name) ∧
        fault = .duplicateField structName field.name) ∧
    ((∃ fault, build structName declared table rules .refuse = .error fault) ↔
      ¬ (declared.map (·.name)).Nodup) ∧
    ((declared.map (·.name)).Nodup → ∃ model,
      build structName declared table rules .refuse = .ok model ∧
      build structName declared table rules .lastWins = .ok model ∧
      model.structName = structName ∧
      List.Forall₂ (SchemaField.Emits table rules) declared model.fields) ∧
    ∃ model, build structName declared table rules .lastWins = .ok model ∧
      model.structName = structName ∧
      model.fieldNames = (declared.map (·.name)).eraseDups ∧
      ∀ field ∈ model.fields, ∃ before last after, declared = before ++ last :: after ∧
        last.name = field.name ∧ (∀ later ∈ after, later.name ≠ field.name) ∧
        SchemaField.Emits table rules last field := by
  refine ⟨fun fault => build_refuse_eq_error_iff, ?_, fun hn => ?_, ?_⟩
  · rw [Outcome.exists_error_iff, build_refuse_ok_iff]
  · refine ⟨_, build_of_nodup hn, build_of_nodup hn, rfl, ?_⟩
    rw [List.forall₂_map_right_iff]
    exact List.forall₂_same.2 fun d _ => SchemaField.emits_ofDescriptor table rules d
  · obtain ⟨model, hmodel, hnames, hnodup, hfields⟩ :=
      build_lastWins structName declared table rules
    refine ⟨model, hmodel, (sourceType_of_build hmodel).1, hnames, fun field hf => ?_⟩
    have hfound := field?_of_mem hnodup hf
    rw [hfields] at hfound
    obtain ⟨last, hlast, rfl⟩ := Option.map_eq_some_iff.1 hfound
    obtain ⟨before, after, hsplit, hname, hafter⟩ := exists_last_of_find?_reverse hlast
    exact ⟨before, last, after, hsplit, hname, hafter, SchemaField.emits_ofDescriptor table rules _⟩

/-- A rule on the type of a field. -/
def moneyRule : OverrideRule :=
  ⟨"money", .satisfies (·.sourceType == "Money"), ⟨"Decimal128", "string", []⟩⟩

/-- Fields of two names that alternate, with the rule for the first of one and the last of the
other. -/
def billedFields : List FieldDescriptor :=
  [⟨"total", "Money", true, none, none⟩, ⟨"tax", "int", true, none, none⟩,
    ⟨"total", "string", false, none, none⟩, ⟨"tax", "Money", false, none, none⟩]

/-- Two names that each stand twice: a fault at the third field, or the two last fields. -/
theorem build_by_policy_billedFields :
    build "Bill" billedFields .primitive [moneyRule] .refuse =
        .error (.duplicateField "Bill" "total") ∧
      ∃ model, build "Bill" billedFields .primitive [moneyRule] .lastWins = .ok model ∧
        model.fieldNames = ["total", "tax"] := by
  obtain ⟨hrefuse, -, -, model, hmodel, -, hnames, -⟩ :=
    build_by_policy "Bill" billedFields .primitive [moneyRule]
  refine ⟨(hrefuse _).2 ⟨billedFields.take 2, ⟨"total", "string", false, none, none⟩,
    billedFields.drop 3, rfl, by decide, by decide, rfl⟩, model, hmodel, ?_⟩
  rw [hnames]
  decide

end SchemaModel

end StructSchema
