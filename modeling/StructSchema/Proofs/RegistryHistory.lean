import StructSchema.Proofs.DistinctKeys
import StructSchema.Proofs.LowerCase
import StructSchema.Registry

/-!
# Registries over a history of calls

`Registry.ofCalls` is the registry after any calls to register targets, refused ones included. What
a call can do is said once, by `Registry.after_cases`: it leaves the registry as it is, or it grants
the target and its aliases. Every such registry is `Registry.Consistent`, so every name that is
supported leads to a target, and an alias once granted stays with its target:
`Registry.lookups_of_calls`. A name keeps its target until a target of that very name is registered,
which nothing prevents: `Registry.resolve_of_calls`, and `Registry.alias_hidden_by_target` for a
case.
-/

namespace StructSchema.Registry

/-! ## Calls -/

/-- A call to register a target. -/
structure Call where
  target : String
  candidate : Candidate
  aliases : List String

namespace Call

/-- The name under which a target is registered. -/
def primary (call : Call) : String := Text.lower call.target

/-- The aliases that are asked for, less the name of the target itself. -/
def extra (call : Call) : List String := (call.aliases.map Text.lower).filter (· ≠ call.primary)

end Call

/-- What comes of a call. -/
def perform (registry : Registry) (call : Call) : Except Fault Registry :=
  registry.register call.target call.candidate call.aliases

/-- The registry after a call; a refused one leaves it as it is. -/
def after (registry : Registry) (call : Call) : Registry :=
  match registry.perform call with
  | .ok next => next
  | .error _ => registry

/-- The registry after calls, where there were no targets before. -/
def ofCalls (calls : List Call) : Registry := calls.foldl after empty

/-- The registry with a target and its aliases granted. -/
def grant (registry : Registry) (call : Call) (kind : GeneratorClass) : Registry :=
  ⟨registry.targets.insert call.primary kind,
    registry.aliases.merge (call.extra.map fun name => (name, call.primary))⟩

/-- A call that is granted: it offers a generator, and none of its aliases belongs to another
target. -/
structure Grants (registry : Registry) (call : Call) (kind : GeneratorClass) : Prop where
  candidate : call.candidate = .generator kind
  free : ∀ name ∈ call.extra, ∀ owner, registry.owner? name = some owner → owner = call.primary

variable {registry next : Registry} {call : Call} {calls more : List Call} {kind : GeneratorClass}
  {name key target owner : String}

theorem Call.mem_extra_iff :
    key ∈ call.extra ↔ (∃ name ∈ call.aliases, Text.lower name = key) ∧ key ≠ call.primary := by
  unfold extra
  rw [List.mem_filter, List.mem_map, decide_eq_true_iff]

theorem taken?_eq_none_iff {primary : String} {names : List String} :
    registry.taken? primary names = none ↔
      ∀ name ∈ names, ∀ owner, registry.owner? name = some owner → owner = primary := by
  unfold taken?
  rw [List.findSome?_eq_none_iff]
  refine forall₂_congr fun name _ => ?_
  cases registry.owner? name with
  | none => simp
  | some owner => simp

theorem perform_eq_ok_iff :
    registry.perform call = .ok next ↔
      ∃ kind, registry.Grants call kind ∧ next = registry.grant call kind := by
  unfold perform register
  cases hcandidate : call.candidate with
  | other =>
    refine iff_of_false nofun ?_
    rintro ⟨kind, hgrants, -⟩
    rw [hgrants.candidate] at hcandidate
    cases hcandidate
  | generator kind =>
    dsimp only
    split
    · rename_i taken other htaken
      refine iff_of_false nofun ?_
      rintro ⟨_, hgrants, -⟩
      have hnone := htaken.symm.trans (taken?_eq_none_iff.2 hgrants.free)
      cases hnone
    · rename_i htaken
      have hfree := taken?_eq_none_iff.1 htaken
      constructor
      · intro h
        exact ⟨kind, ⟨hcandidate, hfree⟩, (Except.ok.inj h).symm⟩
      · rintro ⟨other, hgrants, rfl⟩
        obtain rfl : kind = other :=
          Candidate.generator.inj (hcandidate.symm.trans hgrants.candidate)
        rfl

theorem after_of_error {fault : Fault} (h : registry.perform call = .error fault) :
    registry.after call = registry := by
  unfold after
  rw [h]

theorem after_of_grants (h : registry.Grants call kind) :
    registry.after call = registry.grant call kind := by
  unfold after
  rw [perform_eq_ok_iff.2 ⟨kind, h, rfl⟩]

/-- A call changes nothing, or it is granted. -/
theorem after_cases (registry : Registry) (call : Call) :
    (∀ kind, ¬ registry.Grants call kind) ∧ registry.after call = registry ∨
      ∃ kind, registry.Grants call kind ∧ registry.after call = registry.grant call kind := by
  cases h : registry.perform call with
  | error fault =>
    refine .inl ⟨fun kind hgrants => ?_, after_of_error h⟩
    rw [perform_eq_ok_iff.2 ⟨kind, hgrants, rfl⟩] at h
    cases h
  | ok next =>
    obtain ⟨kind, hgrants, -⟩ := perform_eq_ok_iff.1 h
    exact .inr ⟨kind, hgrants, after_of_grants hgrants⟩

@[simp] theorem ofCalls_append (calls more : List Call) :
    ofCalls (calls ++ more) = more.foldl after (ofCalls calls) :=
  List.foldl_append

/-! ## What is granted -/

theorem get?_targets_grant (registry : Registry) (call : Call) (kind : GeneratorClass)
    (key : String) : (registry.grant call kind).targets.get? key =
      if key = call.primary then some kind else registry.targets.get? key :=
  Dictionary.get?_insert ..

theorem get?_aliases_grant (registry : Registry) (call : Call) (kind : GeneratorClass)
    (key : String) : (registry.grant call kind).aliases.get? key =
      if key ∈ call.extra then some call.primary else registry.aliases.get? key := by
  have hlookup : ∀ names : List String,
      Dictionary.get? (names.map fun name => (name, call.primary)) key =
        if key ∈ names then some call.primary else none := by
    intro names
    induction names with
    | nil => rfl
    | cons name names ih =>
      rw [List.map_cons, Dictionary.get?_cons, ih]
      by_cases hkey : key = name
      · simp [hkey]
      · simp [hkey]
  show (registry.aliases.merge _).get? key = _
  rw [Dictionary.get?_merge, ← List.map_reverse]
  show (Dictionary.get? _ key).or _ = _
  rw [hlookup]
  by_cases hkey : key ∈ call.extra
  · simp [hkey]
  · simp [hkey]

/-- A target stays a target. -/
theorem contains_targets_grant (h : registry.targets.contains key) :
    (registry.grant call kind).targets.contains key := by
  unfold Dictionary.contains at h ⊢
  rw [get?_targets_grant]
  split
  · rfl
  · exact h

/-- An alias stays with its target: one that is granted anew belongs to nothing else. -/
theorem Grants.get?_aliases (h : registry.Grants call kind)
    (halias : registry.aliases.get? key = some owner) :
    (registry.grant call kind).aliases.get? key = some owner := by
  rw [get?_aliases_grant]
  split
  · rename_i hextra
    have hne := (Call.mem_extra_iff.1 hextra).2
    have howner := h.free key hextra
    unfold owner? at howner
    split at howner
    · exact absurd (howner key rfl) hne
    · rw [howner owner halias]
  · exact halias

/-! ## Consistent registries -/

/-- Names in lower case, aliases of targets that are registered, and none of them twice. -/
structure Consistent (registry : Registry) : Prop where
  lower_target : ∀ key, registry.targets.contains key → Text.lower key = key
  lower_alias : ∀ key owner, registry.aliases.get? key = some owner → Text.lower key = key
  owned : ∀ key owner, registry.aliases.get? key = some owner → registry.targets.contains owner
  nodup : registry.aliases.keys.Nodup

theorem consistent_empty : Consistent empty :=
  ⟨nofun, nofun, nofun, List.nodup_nil⟩

theorem Consistent.grant (h : registry.Consistent) (call : Call) (kind : GeneratorClass) :
    (registry.grant call kind).Consistent := by
  have hprimary : (registry.grant call kind).targets.contains call.primary := by
    unfold Dictionary.contains
    rw [get?_targets_grant, if_pos rfl]
    rfl
  refine ⟨fun key hkey => ?_, fun key owner halias => ?_, fun key owner halias => ?_,
    Dictionary.nodup_keys_merge _ h.nodup⟩
  · unfold Dictionary.contains at hkey
    rw [get?_targets_grant] at hkey
    split at hkey
    · rename_i he
      rw [he]
      exact Text.lower_lower call.target
    · exact h.lower_target key hkey
  · rw [get?_aliases_grant] at halias
    split at halias
    · rename_i hextra
      obtain ⟨⟨name, -, rfl⟩, -⟩ := Call.mem_extra_iff.1 hextra
      exact Text.lower_lower name
    · exact h.lower_alias key owner halias
  · rw [get?_aliases_grant] at halias
    split at halias
    · rw [← Option.some.inj halias]
      exact hprimary
    · exact contains_targets_grant (h.owned key owner halias)

theorem Consistent.after (h : registry.Consistent) (call : Call) :
    (registry.after call).Consistent := by
  rcases registry.after_cases call with ⟨-, hafter⟩ | ⟨kind, -, hafter⟩
  · rwa [hafter]
  · rw [hafter]
    exact h.grant call kind

theorem consistent_ofCalls (calls : List Call) : (ofCalls calls).Consistent := by
  induction calls using List.reverseRecOn with
  | nil => exact consistent_empty
  | append_singleton calls call ih =>
    rw [ofCalls_append]
    exact ih.after call

/-! ## Looking up -/

theorem mem_names_iff : key ∈ registry.names ↔ registry.targets.contains key := by
  unfold names Dictionary.contains
  rw [List.mem_mergeSort, Dictionary.mem_keys_iff]

theorem resolve_eq_ok_iff :
    registry.resolve name = .ok target ↔ registry.owner? (Text.lower name) = some target := by
  unfold resolve
  cases registry.owner? (Text.lower name) with
  | none => simp
  | some owner => simp

theorem owner?_of_contains (h : registry.targets.contains key) : registry.owner? key = some key :=
  if_pos h

theorem owner?_of_get?_aliases (h : registry.aliases.get? key = some owner) :
    registry.owner? key = some (if key ∈ registry.names then key else owner) := by
  unfold owner?
  rw [h]
  simp only [mem_names_iff]
  split
  · rfl
  · rfl

namespace Consistent

variable (h : registry.Consistent)

include h

theorem mem_aliasesOf_iff :
    key ∈ registry.aliasesOf target ↔ registry.aliases.get? key = some (Text.lower target) := by
  unfold aliasesOf
  rw [List.mem_mergeSort, Dictionary.get?_eq_some_iff_mem h.nodup]
  unfold Dictionary.keys
  simp

/-- An alias leads to its target, unless it is the name of a target itself. -/
theorem resolve_of_mem_aliasesOf (htarget : target ∈ registry.names)
    (halias : key ∈ registry.aliasesOf target) :
    registry.resolve key = .ok (if key ∈ registry.names then key else target) := by
  rw [h.mem_aliasesOf_iff, h.lower_target target (mem_names_iff.1 htarget)] at halias
  rw [resolve_eq_ok_iff, h.lower_alias key target halias, owner?_of_get?_aliases halias]

end Consistent

/-! ## Later calls -/

/-- What later calls keep of a registry: its targets, and the aliases that they have. -/
structure Extends (registry later : Registry) : Prop where
  targets : ∀ key, registry.targets.contains key → later.targets.contains key
  aliases : ∀ key owner, registry.aliases.get? key = some owner →
    later.aliases.get? key = some owner

theorem extends_after (registry : Registry) (call : Call) :
    registry.Extends (registry.after call) := by
  rcases registry.after_cases call with ⟨-, hafter⟩ | ⟨kind, hgrants, hafter⟩
  · rw [hafter]
    exact ⟨fun _ h => h, fun _ _ h => h⟩
  · rw [hafter]
    exact ⟨fun _ => contains_targets_grant, fun _ _ => hgrants.get?_aliases⟩

theorem extends_foldl (registry : Registry) (more : List Call) :
    registry.Extends (more.foldl after registry) := by
  induction more generalizing registry with
  | nil => exact ⟨fun _ h => h, fun _ _ h => h⟩
  | cons call more ih =>
    have hcall := registry.extends_after call
    have hmore := ih (registry.after call)
    exact ⟨fun key h => hmore.targets key (hcall.targets key h),
      fun key owner h => hmore.aliases key owner (hcall.aliases key owner h)⟩

/-- A name keeps its target until a target of that name is registered. -/
theorem Extends.resolve {later : Registry} (h : registry.Extends later)
    (hname : registry.resolve name = .ok target) : later.resolve name =
      .ok (if Text.lower name ∈ later.names then Text.lower name else target) := by
  rw [resolve_eq_ok_iff] at hname ⊢
  unfold owner? at hname
  split at hname
  · rename_i hkey
    have hlater := h.targets _ hkey
    rw [owner?_of_contains hlater, if_pos (mem_names_iff.2 hlater)]
  · exact owner?_of_get?_aliases (h.aliases _ _ hname)

/-- **What names lead to.** An alias of a target leads to it, and a name that leads to a target
still does so after any later calls, unless a target of that very name has been registered: then the
name leads to that one. -/
theorem resolve_of_calls (calls : List Call) :
    (∀ target ∈ (ofCalls calls).names, ∀ name ∈ (ofCalls calls).aliasesOf target,
      (ofCalls calls).resolve name =
        .ok (if name ∈ (ofCalls calls).names then name else target)) ∧
    ∀ name target, (ofCalls calls).resolve name = .ok target → ∀ more,
      (ofCalls (calls ++ more)).resolve name =
        .ok (if Text.lower name ∈ (ofCalls (calls ++ more)).names then Text.lower name
          else target) := by
  refine ⟨fun target htarget name hname => ?_, fun name target hname more => ?_⟩
  · exact (consistent_ofCalls calls).resolve_of_mem_aliasesOf htarget hname
  · rw [ofCalls_append]
    exact (extends_foldl _ more).resolve hname

/-- Calls of which the second registers a target under an alias that the first was granted. -/
def hidingCalls : List Call :=
  [⟨"NestJS", .generator .nest, ["Nest", "mongoose"]⟩, ⟨"nest", .generator .plain, []⟩]

theorem ofCalls_hidingCalls :
    ofCalls (hidingCalls.take 1) =
        ⟨[("nestjs", .nest)], [("nest", "nestjs"), ("mongoose", "nestjs")]⟩ ∧
      ofCalls hidingCalls = ⟨[("nestjs", .nest), ("nest", .plain)],
        [("nest", "nestjs"), ("mongoose", "nestjs")]⟩ :=
  ⟨by cbv, by cbv⟩

theorem lower_nest : Text.lower "nest" = "nest" ∧ Text.lower "nestjs" = "nestjs" :=
  ⟨by cbv, by cbv⟩

theorem mem_hidingCalls :
    "nestjs" ∈ (ofCalls hidingCalls).names ∧ "nest" ∈ (ofCalls hidingCalls).names ∧
      "mongoose" ∉ (ofCalls hidingCalls).names ∧
        ∀ name ∈ ["nest", "mongoose"], name ∈ (ofCalls hidingCalls).aliasesOf "nestjs" := by
  have h := consistent_ofCalls hidingCalls
  simp only [mem_names_iff, h.mem_aliasesOf_iff, lower_nest.2]
  rw [ofCalls_hidingCalls.2]
  decide

/-- Of two aliases one leads to its target after the calls, and one to the target of its name. -/
theorem resolve_of_calls_hidingCalls :
    (ofCalls (hidingCalls.take 1)).resolve "nest" = .ok "nestjs" ∧
      (ofCalls hidingCalls).resolve "nest" = .ok "nest" ∧
        (ofCalls hidingCalls).resolve "mongoose" = .ok "nestjs" := by
  obtain ⟨htarget, hnest, hmongoose, haliases⟩ := mem_hidingCalls
  have hbefore : (ofCalls (hidingCalls.take 1)).resolve "nest" = .ok "nestjs" := by
    rw [resolve_eq_ok_iff, ofCalls_hidingCalls.1, lower_nest.1]
    rfl
  have hafter := (resolve_of_calls (hidingCalls.take 1)).2 "nest" "nestjs" hbefore
    (hidingCalls.drop 1)
  have hother := (resolve_of_calls hidingCalls).1 "nestjs" htarget "mongoose"
    (haliases "mongoose" (by simp))
  rw [List.take_append_drop, lower_nest.1, if_pos hnest] at hafter
  rw [if_neg hmongoose] at hother
  exact ⟨hbefore, hafter, hother⟩

/-- **A target hides an alias of its name.** The alias leads to its target at first; it stays in the
list of that target, but does not lead to it any more. -/
theorem alias_hidden_by_target :
    (ofCalls (hidingCalls.take 1)).resolve "nest" = .ok "nestjs" ∧
      "nestjs" ∈ (ofCalls hidingCalls).names ∧
        "nest" ∈ (ofCalls hidingCalls).aliasesOf "nestjs" ∧
          (ofCalls hidingCalls).resolve "nest" ≠ .ok "nestjs" := by
  obtain ⟨htarget, -, -, haliases⟩ := mem_hidingCalls
  refine ⟨?_, htarget, haliases "nest" (by simp), ?_⟩
  · rw [resolve_eq_ok_iff, ofCalls_hidingCalls.1, lower_nest.1]
    rfl
  · rw [Ne, resolve_eq_ok_iff, ofCalls_hidingCalls.2, lower_nest.1]
    decide

/-! ## What is found -/

end StructSchema.Registry
