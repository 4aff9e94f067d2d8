import Mathlib.Tactic.SplitIfs
import StructSchema.Proofs.Lexing
import StructSchema.Proofs.Outcome
import StructSchema.StructBody

/-!
# When a statement declares a field

`FieldLine.read_eq_ok_iff` says which statements declare a field, and which: a name, the tokens of a
type expression of which the last is a name, and one tag that can be read. Otherwise the statement
gives an issue, whose text holds every character of its tokens: `FieldLine.mem_text_iff`.
-/

namespace StructSchema.FieldLine

variable {statement before types : List Token} {name type tag : Token} {field : FieldDescriptor}

theorem takeWhile_tag (hb : ∀ token ∈ before, token.kind ≠ .tag) (ht : tag.kind = .tag) :
    (before ++ [tag]).takeWhile (·.kind != .tag) = before := by
  rw [List.takeWhile_append_of_pos (fun token h => by simpa using hb token h)]
  simp [ht]

theorem dropWhile_tag (hb : ∀ token ∈ before, token.kind ≠ .tag) (ht : tag.kind = .tag) :
    (before ++ [tag]).dropWhile (·.kind != .tag) = [tag] := by
  rw [List.dropWhile_append_of_pos (fun token h => by simpa using hb token h)]
  simp [ht]

/-- What is asked, in order, of a statement that ends in its one tag. -/
theorem read_cons_concat (hb : ∀ token ∈ name :: types, token.kind ≠ .tag) (ht : tag.kind = .tag)
    (hl : types.getLast? = some type) :
    read (name :: types ++ [tag]) =
      if name.kind ≠ .ident then .error (.invalidName name.value)
      else if type.kind ≠ .ident then .error (.invalidType type.value)
      else if types.any isForeign then .error .invalidTypeExpression
      else (FieldTag.read tag.value).map fun said =>
        ⟨said.name, type.value, said.required, some name.value, some name.line⟩ := by
  unfold read
  rw [takeWhile_tag hb ht, dropWhile_tag hb ht]
  simp only [List.tail_cons, hl]
  by_cases hname : name.kind ≠ .ident
  · rw [if_pos hname, if_pos hname]
    rfl
  rw [if_neg hname, if_neg hname]
  by_cases htype : type.kind ≠ .ident
  · rw [if_pos htype, if_pos htype]
    rfl
  rw [if_neg htype, if_neg htype]
  by_cases hforeign : types.any isForeign = true
  · rw [if_pos hforeign, if_pos hforeign]
    rfl
  rw [if_neg hforeign, if_neg hforeign]
  cases FieldTag.read tag.value with
  | error fault => rfl
  | ok said => rfl

/-- A statement that declares a field ends in its one tag, behind a name and a type. -/
theorem exists_of_read (h : read statement = .ok field) :
    ∃ name types type tag, statement = name :: types ++ [tag] ∧
      (∀ token ∈ name :: types, token.kind ≠ .tag) ∧ tag.kind = .tag ∧
      types.getLast? = some type := by
  have hsplit := List.takeWhile_append_dropWhile (p := (·.kind != .tag)) (l := statement)
  have hhead := Token.head?_dropWhile_eq_false (fun token : Token => token.kind != .tag) statement
  have hrun : ∀ token ∈ statement.takeWhile (·.kind != .tag), token.kind ≠ .tag := by
    intro token ht
    simpa using List.mem_takeWhile_imp ht
  unfold read at h
  split at h
  · rename_i tag htag
    rw [htag] at hsplit hhead
    dsimp only at h
    split at h
    · rename_i name types type hbefore htype
      rw [hbefore] at hsplit hrun htype
      exact ⟨name, types, type, tag, hsplit.symm, hrun, by simpa using hhead tag rfl, htype⟩
    · cases h
  · cases h

/-- The statements that declare a field, and the fields. -/
theorem read_eq_ok_iff : read statement = .ok field ↔
    ∃ name types type tag said, statement = name :: types ++ [tag] ∧
      name.kind = .ident ∧ types.getLast? = some type ∧ type.kind = .ident ∧ tag.kind = .tag ∧
      (∀ token ∈ types, token.kind ≠ .tag ∧ isForeign token = false) ∧
      FieldTag.read tag.value = .ok said ∧
      field = ⟨said.name, type.value, said.required, some name.value, some name.line⟩ := by
  constructor
  · intro h
    obtain ⟨name, types, type, tag, rfl, hb, ht, hl⟩ := exists_of_read h
    rw [read_cons_concat hb ht hl] at h
    split_ifs at h with hname htype hforeign
    rw [Decidable.not_not] at hname htype
    cases hs : FieldTag.read tag.value with
    | error fault => rw [hs] at h; cases h
    | ok said =>
      rw [hs] at h
      cases h
      rw [Bool.not_eq_true, List.any_eq_false] at hforeign
      exact ⟨name, types, type, tag, said, rfl, hname, hl, htype, ht, fun token hm =>
        ⟨hb token (List.mem_cons_of_mem name hm), by simpa using hforeign token hm⟩, hs, rfl⟩
  · rintro ⟨name, types, type, tag, said, rfl, hname, hl, htype, ht, htypes, hs, rfl⟩
    have hb : ∀ token ∈ name :: types, token.kind ≠ .tag := by
      rw [List.forall_mem_cons]
      exact ⟨by simp [hname], fun token hm => (htypes token hm).1⟩
    have hforeign : ¬ types.any isForeign = true := by
      rw [List.any_eq_true]
      rintro ⟨token, hm, hf⟩
      rw [(htypes token hm).2] at hf
      cases hf
    rw [read_cons_concat hb ht hl, if_neg (not_not_intro hname), if_neg (not_not_intro htype),
      if_neg hforeign, hs]
    rfl

/-- No string stands in a statement that declares a field. -/
theorem kind_ne_quoted_of_read (h : read statement = .ok field) :
    ∀ token ∈ statement, token.kind ≠ .quoted := by
  obtain ⟨name, types, type, tag, _, rfl, hname, -, -, ht, htypes, -⟩ := read_eq_ok_iff.1 h
  intro token hm hk
  rcases List.mem_append.1 hm with hm | hm
  · rcases List.mem_cons.1 hm with rfl | hm
    · rw [hname] at hk
      cases hk
    · have := (htypes token hm).2
      simp [isForeign, hk] at this
  · rw [List.mem_singleton.1 hm, ht] at hk
    cases hk

/-! ## Issues -/

theorem examine_eq_ok_iff : examine statement = .ok field ↔ read statement = .ok field :=
  Outcome.mapError_eq_ok_iff

/-- An issue shows the statement. -/
theorem text_of_examine {issue : FieldIssue} (h : examine statement = .error issue) :
    issue.text = text statement := by
  unfold examine at h
  cases hr : read statement with
  | error fault => rw [hr] at h; cases h; rfl
  | ok field => rw [hr] at h; cases h

/-- The text of a statement holds the characters of its tokens, and blanks. -/
theorem mem_text_iff {c : Char} (hc : c ≠ ' ') (statement : List Token) :
    c ∈ (text statement).toList ↔ ∃ token ∈ statement, c ∈ token.value.toList := by
  unfold text
  rw [mem_intercalate_iff (by simpa using hc)]
  simp

end StructSchema.FieldLine
