import BotCanvas.Offside.Condition
import BotCanvas.Proofs.Program.Names

/-!
# Characters of conditions

A condition in the language with suites consists of characters that the user wrote and of those of
the operators and words that replace the user's.
-/

namespace BotCanvas

namespace Text

variable {p : Char → Prop}
variable {old new s : Text}

/-- Replacing brings in the characters of the new text only. -/
theorem forall_mem_replaceAll
    (hnew : ∀ c ∈ new, p c)
    (hs : ∀ c ∈ s, p c) :
    ∀ c ∈ replaceAll old new s, p c := by
  unfold replaceAll
  fun_induction replaceAfter old new 0 s with
  | case1 => simp
  | case2 passing d r ih => exact ih fun c hc => hs c (by simp [hc])
  | case3 d r hfound ih =>
      intro c hc
      rcases List.mem_append.1 hc with hc | hc
      · exact hnew c hc
      · exact ih (fun e he => hs e (by simp [he])) c hc
  | case4 d r hfound ih =>
      intro c hc
      rcases List.mem_cons.1 hc with rfl | hc
      · exact hs c (by simp)
      · exact ih (fun e he => hs e (by simp [he])) c hc

/-- So does replacing a word. -/
theorem forall_mem_replaceWord
    (hnew : ∀ c ∈ new, p c)
    (hs : ∀ c ∈ s, p c) :
    ∀ c ∈ replaceWord old new s, p c := by
  unfold replaceWord
  fun_induction replaceWordAfter old new 0 none s with
  | case1 => simp
  | case2 passing previous d r ih => exact ih fun c hc => hs c (by simp [hc])
  | case3 previous d r hfound ih =>
      intro c hc
      rcases List.mem_append.1 hc with hc | hc
      · exact hnew c hc
      · exact ih (fun e he => hs e (by simp [he])) c hc
  | case4 previous d r hfound ih =>
      intro c hc
      rcases List.mem_cons.1 hc with rfl | hc
      · exact hs c (by simp)
      · exact ih (fun e he => hs e (by simp [he])) c hc

/-- Narrowing brings in spaces only. -/
theorem forall_mem_narrow
    (hspace : p ' ')
    (hs : ∀ c ∈ s, p c) :
    ∀ c ∈ narrow s, p c := by
  unfold narrow
  generalize false = inRun
  induction s generalizing inRun with
  | nil => simp [narrowAfter]
  | cons d r ih =>
      have hd := hs d (by simp)
      have hr := ih fun c hc => hs c (by simp [hc])
      rw [narrowAfter]
      split
      · split
        · exact hr true
        · split
          · exact List.forall_mem_cons.2 ⟨hspace, hr true⟩
          · exact List.forall_mem_cons.2 ⟨hd, hr false⟩
      · exact List.forall_mem_cons.2 ⟨hd, hr false⟩

end Text

namespace Offside

variable {p : Char → Prop}

/-- The rest of a literal holds characters that follow only. -/
theorem forall_mem_of_literalRest?
    {quote : Char}
    {r body rest : Text}
    (h : literalRest? quote r = some (body, rest))
    (hr : ∀ c ∈ r, p c) :
    ∀ c ∈ body, p c := by
  fun_induction literalRest? quote r generalizing body rest with
  | case1 => cases h
  | case2 r => cases h
  | case3 c r hc ih =>
      obtain ⟨⟨inside, after⟩, hfound, heq⟩ := Option.map_eq_some_iff.1 h
      obtain ⟨rfl, -⟩ := Prod.mk.inj heq
      have hinside := ih hfound fun d hd => hr d (by simp [hd])
      exact List.forall_mem_cons.2 ⟨hr _ (by simp), List.forall_mem_cons.2
        ⟨hr c (by simp), hinside⟩⟩
  | case4 r =>
      obtain ⟨rfl, -⟩ := Prod.mk.inj (Option.some.inj h)
      simpa using hr _ (by simp)
  | case5 r => cases h
  | case6 c r =>
      rename_i ih
      obtain ⟨⟨inside, after⟩, hfound, heq⟩ := Option.map_eq_some_iff.1 h
      obtain ⟨rfl, -⟩ := Prod.mk.inj heq
      have hinside := ih hfound fun d hd => hr d (by simp [hd])
      exact List.forall_mem_cons.2 ⟨hr c (by simp), hinside⟩

/-- The text of a part. -/
def ConditionPart.text : ConditionPart → Text
  | code t => t
  | literal t => t

/-- The parts of a condition hold its characters only. -/
theorem forall_mem_partsAfter
    (passing : Nat)
    {s : Text}
    (h : ∀ c ∈ s, p c) :
    ∀ part ∈ partsAfter passing s, ∀ c ∈ part.text, p c := by
  induction s generalizing passing with
  | nil => simp [partsAfter, ConditionPart.text]
  | cons c r ih =>
      have hr : ∀ d ∈ r, p d := fun d hd => h d (by simp [hd])
      have hc : p c := h c (by simp)
      cases passing with
      | succ passing => exact ih passing hr
      | zero =>
          rw [partsAfter]
          split
          · rename_i body rest hliteral
            split at hliteral
            · have hbody := forall_mem_of_literalRest? hliteral hr
              simpa [ConditionPart.text, hc] using ⟨hbody, ih body.length hr⟩
            · cases hliteral
          · have hrest := ih 0 hr
            split
            · rename_i t rest hparts
              rw [hparts] at hrest
              simpa [ConditionPart.text, hc] using hrest
            · simpa [ConditionPart.text, hc] using hrest

/-- The characters of the operators and words that replace the user's. -/
def spelledChars : Text :=
  "=! andorTueFlsN"

/-- What holds of the characters of operators and words and of the user's characters holds of all
characters of a condition. -/
theorem forall_mem_conditionCode
    (hspelled : ∀ c ∈ spelledChars, p c)
    {v : Value}
    (h : ∀ c ∈ Text.strip v.displayPresent, p c) :
    ∀ c ∈ conditionCode v, p c := by
  have hnew : ∀ new : Text, new.all (fun c => spelledChars.contains c) = true →
      ∀ c ∈ new, p c :=
    fun new hall c hc => hspelled c (List.contains_iff_mem.1 (List.all_eq_true.1 hall c hc))
  have hchosen : ∀ c ∈ (if (Text.strip v.displayPresent).isEmpty then "True".toList
      else Text.strip v.displayPresent), p c := by
    split
    · exact hnew _ (by decide)
    · exact h
  intro c hc
  obtain ⟨part, hpart, hc⟩ := List.mem_flatMap.1 hc
  have htext := forall_mem_partsAfter 0 hchosen part hpart
  cases part with
  | literal t => exact htext c hc
  | code t =>
      refine Text.forall_mem_narrow (hspelled ' ' (by decide)) ?_ c hc
      refine Text.forall_mem_replaceWord (hnew _ (by decide)) ?_
      refine Text.forall_mem_replaceWord (hnew _ (by decide)) ?_
      refine Text.forall_mem_replaceWord (hnew _ (by decide)) ?_
      refine Text.forall_mem_replaceAll (hnew _ (by decide)) ?_
      refine Text.forall_mem_replaceAll (hnew _ (by decide)) ?_
      refine Text.forall_mem_replaceAll (hnew _ (by decide)) ?_
      exact Text.forall_mem_replaceAll (hnew _ (by decide)) htext

end Offside

end BotCanvas
