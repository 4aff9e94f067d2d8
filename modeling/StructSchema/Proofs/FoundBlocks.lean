import StructSchema.Proofs.Headers

/-!
# What the search for declarations finds

`StructBlock.Cuts front text blocks` says that a text behind `front` is declarations with gaps
between them in which none begins. The search cuts a text so, `cuts_blocksIn`, and it finds the
declarations of every such cut, `Cuts.eq_blocksIn`; so there is one cut of a source, and its
declarations are those that the search finds: `all_cuts`.
-/

namespace StructSchema

namespace StructBlock

variable {text : List Char}

/-! ## Cuts of a source -/

/-- A declaration begins in front of `text`, which stands behind `front`: a header at a word boundary
that has a closing brace somewhere behind it. -/
def BeginsAt (front text : List Char) : Prop :=
  (∀ c ∈ front.getLast?, Text.isWordChar c = false) ∧
    ∃ name header inside, IsHeader name header ∧ text = header ++ inside ∧ closingBrace ∈ inside

/-- No declaration begins inside `gap`, which stands between `front` and `behind`. -/
def Passes (front gap behind : List Char) : Prop :=
  ∀ passed c rest, gap = passed ++ c :: rest →
    ¬ BeginsAt (front ++ passed) (c :: (rest ++ behind))

/-- A text behind `front` is declarations with gaps between them in which none begins. -/
inductive Cuts : List Char → List Char → List StructBlock → Prop where
  | last {front gap : List Char} (hgap : Passes front gap []) : Cuts front gap []
  | block {front gap header after : List Char} {block : StructBlock} {blocks : List StructBlock}
    (hgap : Passes front gap (header ++ (block.body.toList ++ closingBrace :: after)))
    (hbound : ∀ c ∈ (front ++ gap).getLast?, Text.isWordChar c = false)
    (hheader : IsHeader block.name.toList header) (hbody : closingBrace ∉ block.body.toList)
    (h : Cuts (front ++ (gap ++ (header ++ (block.body.toList ++ [closingBrace])))) after blocks) :
    Cuts front (gap ++ (header ++ (block.body.toList ++ closingBrace :: after))) (block :: blocks)

/-- Whether a text ends in a word character. -/
def endsInWord (front : List Char) : Bool := front.getLast?.elim false Text.isWordChar

theorem endsInWord_concat (front : List Char) (c : Char) :
    endsInWord (front ++ [c]) = Text.isWordChar c := by
  rw [endsInWord, List.getLast?_concat]
  rfl

theorem endsInWord_eq_false_iff {front : List Char} :
    endsInWord front = false ↔ ∀ c ∈ front.getLast?, Text.isWordChar c = false := by
  unfold endsInWord
  cases front.getLast? with
  | none => simp
  | some c => simp

theorem beginsAt_iff {front : List Char} : BeginsAt front text ↔
    endsInWord front = false ∧ ∃ block after, blockAt? text = some (block, after) := by
  rw [BeginsAt, endsInWord_eq_false_iff]
  refine and_congr_right fun _ => ?_
  constructor
  · rintro ⟨name, header, inside, hheader, rfl, hm⟩
    obtain ⟨body, after, rfl, hbody⟩ := List.eq_append_cons_of_mem hm
    refine ⟨⟨String.ofList name, String.ofList body⟩, after, ?_⟩
    rw [blockAt?_eq_some_iff]
    simp only [String.toList_ofList]
    exact ⟨header, hheader, hbody, rfl⟩
  · rintro ⟨block, after, h⟩
    obtain ⟨header, hheader, -, rfl⟩ := blockAt?_eq_some_iff.1 h
    exact ⟨_, header, _, hheader, rfl, by simp⟩

theorem blockAt?_eq_none_of_not_beginsAt {front : List Char} (h : ¬ BeginsAt front text)
    (hfront : endsInWord front = false) : blockAt? text = none := by
  rw [Option.eq_none_iff_forall_ne_some]
  rintro ⟨block, after⟩ hblock
  exact h (beginsAt_iff.2 ⟨hfront, block, after, hblock⟩)

/-- The search passes over a gap. -/
theorem Passes.blocksIn_append {front gap behind : List Char} (h : Passes front gap behind) :
    blocksIn (endsInWord front) (gap ++ behind) = blocksIn (endsInWord (front ++ gap)) behind := by
  induction gap generalizing front with
  | nil => rw [List.nil_append, List.append_nil]
  | cons c gap ih =>
    have hnone : ¬ BeginsAt front (c :: (gap ++ behind)) := by
      have := h [] c gap rfl
      rwa [List.append_nil] at this
    have htail : Passes (front ++ [c]) gap behind := by
      intro passed d rest hgap
      have := h (c :: passed) d rest (by rw [hgap]; rfl)
      rwa [List.append_cons] at this
    rw [List.cons_append, blocksIn_cons_of_blockAt? (blockAt?_eq_none_of_not_beginsAt hnone),
      ← endsInWord_concat front c, ih htail, ← List.append_cons]

/-- The search finds the declarations of a cut. -/
theorem Cuts.eq_blocksIn {front : List Char} {blocks : List StructBlock}
    (h : Cuts front text blocks) : blocks = blocksIn (endsInWord front) text := by
  induction h with
  | @last front gap hgap =>
    have := hgap.blocksIn_append
    rw [List.append_nil] at this
    rw [this, blocksIn]
  | @block front gap header after block blocks hgap hbound hheader hbody _ ih =>
    rw [hgap.blocksIn_append, endsInWord_eq_false_iff.2 hbound,
      blocksIn_of_blockAt? (blockAt?_append hheader hbody after), ih]
    have hbrace : front ++ (gap ++ (header ++ (block.body.toList ++ [closingBrace]))) =
        (front ++ (gap ++ (header ++ block.body.toList))) ++ [closingBrace] := by
      simp only [List.append_assoc]
    rw [hbrace, endsInWord_concat]
    rfl

/-- A character at which no declaration begins belongs to a gap. -/
theorem Cuts.cons {front : List Char} {c : Char} {blocks : List StructBlock}
    (hnone : ¬ BeginsAt front (c :: text)) (h : Cuts (front ++ [c]) text blocks) :
    Cuts front (c :: text) blocks := by
  have hpasses : ∀ {gap behind : List Char}, text = gap ++ behind →
      Passes (front ++ [c]) gap behind → Passes front (c :: gap) behind := by
    intro gap behind htext hgap passed d rest hsplit
    cases passed with
    | nil =>
      obtain ⟨rfl, rfl⟩ := List.cons.inj hsplit
      rwa [List.append_nil, ← htext]
    | cons e passed =>
      obtain ⟨hc, htail⟩ := List.cons.inj hsplit
      rw [← hc, List.append_cons]
      exact hgap passed d rest htail
  generalize hfront : front ++ [c] = next at h
  cases h with
  | last hgap =>
    subst hfront
    exact .last (hpasses (List.append_nil _).symm hgap)
  | block hgap hbound hheader hbody h =>
    subst hfront
    rw [← List.cons_append]
    refine .block (hpasses rfl hgap) ?_ hheader hbody ?_
    · rwa [List.append_cons]
    · rwa [List.cons_append, List.append_cons]

/-- The search cuts a text into what it finds and gaps between. -/
theorem cuts_blocksIn {inWord : Bool} {front : List Char} (h : endsInWord front = inWord) :
    Cuts front text (blocksIn inWord text) := by
  induction inWord, text using blocksIn.induct generalizing front with
  | case1 inWord =>
    rw [blocksIn]
    refine .last fun passed c rest hgap => ?_
    simp at hgap
  | case2 inWord c rest block after hfound ih =>
    cases inWord with
    | true => cases hfound
    | false =>
      have hblock : blockAt? (c :: rest) = some (block, after) := hfound
      rw [blocksIn_of_blockAt? hblock]
      obtain ⟨header, hheader, hbody, htext⟩ := blockAt?_eq_some_iff.1 hblock
      rw [htext, ← List.nil_append (header ++ _)]
      refine .block (fun passed d more hgap => ?_) ?_ hheader hbody (ih ?_)
      · simp at hgap
      · rwa [List.append_nil, ← endsInWord_eq_false_iff]
      · rw [List.nil_append, ← List.append_assoc, ← List.append_assoc, endsInWord_concat]
        rfl
  | case3 inWord c rest hnone ih =>
    have hblock : inWord = false → blockAt? (c :: rest) = none := by
      rintro rfl
      exact hnone
    rw [blocksIn_cons_of_blockAt? hblock]
    refine Cuts.cons ?_ (ih (endsInWord_concat front c))
    rw [beginsAt_iff]
    rintro ⟨hfront, found, after, hfound⟩
    rw [hblock (h ▸ hfront)] at hfound
    cases hfound

/-- **Every declaration, and the first one.** A source has one cut into declarations, each a header
at a word boundary and a body up to the first closing brace, and gaps in which none begins; the
search finds the declarations of this cut, in order. The search for one declaration finds the first
of them, and none exactly if there is none; so what is selected without the others is the first of
all that are selected. -/
theorem all_cuts (source : String) :
    (∀ blocks, Cuts [] source.toList blocks ↔ blocks = all source) ∧
    (∀ block, first? source = some block ↔ ∃ others, all source = block :: others) ∧
    (first? source = none ↔ all source = []) ∧
    select source true = all source ∧
    select source false = (select source true).take 1 := by
  refine ⟨fun blocks => ⟨fun h => h.eq_blocksIn, ?_⟩, fun block => ?_, ?_, rfl,
    select_false source⟩
  · rintro rfl
    exact cuts_blocksIn rfl
  · rw [first?_eq_head?, List.head?_eq_some_iff]
  · rw [first?_eq_head?, List.head?_eq_none_iff]

end StructBlock

end StructSchema
