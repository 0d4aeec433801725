import BotCanvas.Catalog.Builtin
import BotCanvas.Program.Target
import BotCanvas.Proofs.Braced.Skeleton
import BotCanvas.Proofs.Offside.Skeleton

/-!
# No text becomes code

Whatever a user puts into a property that is spliced in as a text, the program keeps its skeleton:
nothing changes outside of literals, and no literal begins or ends elsewhere
(`Splicing.skeleton_program_withProperty`). Conditions are the one property that a program takes
over as code, so no condition may have a character that begins or ends a literal or a remark.
-/

namespace BotCanvas.Splicing

/-- How the target languages splice texts in. -/
def all : List Splicing :=
  [Braced.splicing, Offside.splicing]

/-- They are all target languages. -/
theorem map_dialect_all :
    all.map Splicing.dialect = Dialect.all :=
  rfl

theorem sound_of_mem_all
    {s : Splicing}
    (hs : s ∈ all) :
    s.Sound := by
  rcases List.mem_cons.1 hs with rfl | hs
  · exact Braced.sound_splicing
  · rw [List.mem_singleton.1 hs]
    exact Offside.sound_splicing

/--
Another value of a property that a block splices in as a text leaves the skeleton of the program as
it is, if no condition that a user spelled out has a quote, a backtick, a backslash, a slash or a
hash. If the one program cannot be made, neither can the other, for the same reason.
-/
theorem skeleton_program_withProperty
    {s : Splicing}
    (hs : s ∈ all)
    {catalog : Catalog}
    (mode : Traversal)
    {front back : List Block}
    {b : Block}
    (connections : List Connection)
    (hconditions : ∀ x ∈ front ++ b :: back, HasUnmarkedCondition catalog x)
    {key : String}
    (hkey : key ∈ s.keysOf b.type)
    (v : Value) :
    (s.dialect.program catalog mode
        ⟨front ++ b.withProperty key v :: back, connections⟩).map s.lexis.skeleton =
      (s.dialect.program catalog mode
        ⟨front ++ b :: back, connections⟩).map s.lexis.skeleton := by
  have hself : ∀ blocks : List Block, (∀ x ∈ blocks, HasUnmarkedCondition catalog x) →
      List.Forall₂ (fun x x' => s.Respliced x x' ∧ HasUnmarkedCondition catalog x) blocks blocks :=
    fun blocks h => List.forall₂_same.2 fun x hx => ⟨.inl rfl, h x hx⟩
  have hb : s.Respliced b (b.withProperty key v) ∧ HasUnmarkedCondition catalog b :=
    ⟨.inr ⟨key, hkey, v, rfl⟩, hconditions b (by simp)⟩
  have hcanvas : CanvasesAlike id
      (fun x x' => s.Respliced x x' ∧ HasUnmarkedCondition catalog x)
      ⟨front ++ b :: back, connections⟩
      ⟨front ++ b.withProperty key v :: back, connections⟩ := by
    refine ⟨?_, List.forall₂_same.2 fun _ _ => ⟨rfl, rfl, rfl⟩⟩
    refine List.rel_append (hself front fun x hx => hconditions x (by simp [hx])) (.cons hb ?_)
    exact hself back fun x hx => hconditions x (by simp [hx])
  exact (sound_of_mem_all hs).skeleton_program hcanvas mode

/-- Of a literal only its quotes are in a skeleton; a remark is not looked into. -/
example :
    Braced.splicing.lexis.skeleton "f('a\\'b', \x60$\x7b\x22\x7d\x60); // it's" =
      "f('', \x60\x60); // it's" := by
  decide

/-- An event and a question. -/
def askedBlocks : List Block :=
  [⟨"1", "event_listener", .zero, .zero, [("event", .str "ready")], "", ""⟩,
   ⟨"2", "if_condition", .zero, .zero, [("condition", .str "a > (1)")], "", ""⟩]

/-- A reply. -/
def replyBlock : Block :=
  ⟨"3", "action_reply", .zero, .zero, [("content", .str "hello")], "", ""⟩

/-- A reply that tries to end its literal. -/
def endingContent : Value :=
  .str "\x60 \x7d); client.destroy(); // \\\x60\n"

set_option maxRecDepth 20000 in
/-- That content changes the program but not its skeleton. -/
theorem skeleton_program_endingContent :
    ∃ program program',
      Braced.dialect.program .builtin .position ⟨askedBlocks ++ [replyBlock], []⟩ = .ok program ∧
      Braced.dialect.program .builtin .position
        ⟨askedBlocks ++ [replyBlock.withProperty "content" endingContent], []⟩ = .ok program' ∧
      program' ≠ program ∧
      Braced.splicing.lexis.skeleton program' = Braced.splicing.lexis.skeleton program := by
  have hflow : ∀ t, Flow.linearize .builtin .position ⟨askedBlocks ++ [replyBlock], []⟩ (some t) =
      ((askedBlocks ++ [replyBlock]).drop 1).map .plain :=
    fun t => (Flow.linearize_position_of_pairwise (by decide +kernel) (some t)).trans rfl
  have hflow' : ∀ t, Flow.linearize .builtin .position
      ⟨askedBlocks ++ [replyBlock.withProperty "content" endingContent], []⟩ (some t) =
        ((askedBlocks ++ [replyBlock.withProperty "content" endingContent]).drop 1).map .plain :=
    fun t => (Flow.linearize_position_of_pairwise (by decide +kernel) (some t)).trans rfl
  have hprogram : (Braced.dialect.program .builtin .position
      ⟨askedBlocks ++ [replyBlock], []⟩).toOption.any
        (fun t => !Text.occursIn "destroy" t) = true := by
    unfold Dialect.program Dialect.handlerUnits Dialect.handlerUnit Dialect.flowCode
    simp only [hflow]
    decide +kernel
  have hprogram' : (Braced.dialect.program .builtin .position
      ⟨askedBlocks ++ [replyBlock.withProperty "content" endingContent], []⟩).toOption.any
        (fun t => Text.occursIn "destroy" t) = true := by
    unfold Dialect.program Dialect.handlerUnits Dialect.handlerUnit Dialect.flowCode
    simp only [hflow']
    decide +kernel
  have hmarks : ((askedBlocks ++ [replyBlock]).all fun x =>
      ((Subject.mk .builtin x).value "condition").display.all fun c => c ∉ literalMarks) = true := by
    decide +kernel
  have hskeleton : (Braced.dialect.program .builtin .position
      ⟨askedBlocks ++ [replyBlock.withProperty "content" endingContent], []⟩).map
        Braced.splicing.lexis.skeleton =
      (Braced.dialect.program .builtin .position ⟨askedBlocks ++ [replyBlock], []⟩).map
        Braced.splicing.lexis.skeleton :=
    skeleton_program_withProperty (s := Braced.splicing) (by simp [all]) .position []
      (fun x hx _ c hc => of_decide_eq_true
        (List.all_eq_true.1 (List.all_eq_true.1 hmarks x hx) c hc))
      (show "content" ∈ Braced.splicing.keysOf replyBlock.type by decide) endingContent
  cases hp : Braced.dialect.program .builtin .position ⟨askedBlocks ++ [replyBlock], []⟩ with
  | error e => simp [hp, Except.toOption] at hprogram
  | ok program =>
      cases hp' : Braced.dialect.program .builtin .position
          ⟨askedBlocks ++ [replyBlock.withProperty "content" endingContent], []⟩ with
      | error e => simp [hp', Except.toOption] at hprogram'
      | ok program' =>
          rw [hp, hp'] at hskeleton
          refine ⟨program, program', rfl, rfl, ?_, Except.ok.inj hskeleton⟩
          rintro rfl
          simp [hp, hp', Except.toOption] at hprogram hprogram'
          rw [hprogram] at hprogram'
          cases hprogram'

end BotCanvas.Splicing
