import A500cg.Lib.Lines

/-! `call_program` of `util.c`: a program is run with its output in a log file, and the log is then
searched for a string. -/

namespace A500cg.Util

open Lib

def EXIT_SUCCESS : Int := 0
def EXIT_FAILURE : Int := 1

structure PassString where
  text : List Char
  nonempty : text ≠ []
  oneLine : '\n' ∉ text
  noNul : '\x00' ∉ text

inductive WaitStatus where
  | failed
  | signaled
  | exited (code : Nat)
  deriving DecidableEq, Repr

/-- Which of the system calls succeed, how the child ends, and what it has written. -/
structure ProgramEnv where
  openLog : Bool
  fork : Bool
  sigaction : Bool
  waitpid : WaitStatus
  lseek : Bool
  fdopen : Bool
  log : List Char
  deriving Repr

def strstr (buf word : List Char) : Bool := decide (word <:+: buf.takeWhile (· ≠ '\x00'))

/-- The loop over what `fgets` puts into `buf`. -/
def searchLog (passString : List Char) : List (List Char) → Int
  | [] => EXIT_FAILURE
  | buf :: rest => if strstr buf passString then EXIT_SUCCESS else searchLog passString rest

def callProgram (env : ProgramEnv) (passString : PassString) : Int :=
  if !env.openLog then EXIT_FAILURE
  else if !env.fork then EXIT_FAILURE
  else if !env.sigaction then EXIT_FAILURE
  else
    match env.waitpid with
    | .failed => EXIT_FAILURE
    | .signaled => EXIT_FAILURE
    | .exited code =>
        if (code : Int) ≠ EXIT_SUCCESS then EXIT_FAILURE
        else if !env.lseek then EXIT_FAILURE
        else if !env.fdopen then EXIT_FAILURE
        -- `buf` has room for the string and its zero, and no more
        else searchLog passString.text (pieces '\n' passString.text.length env.log)

/-- The child was run, and it has ended with success before the time-out. -/
structure Completed (env : ProgramEnv) : Prop where
  openLog : env.openLog = true
  fork : env.fork = true
  sigaction : env.sigaction = true
  exited : env.waitpid = .exited 0

/-- For a child that has completed, success means that the string is in the log. -/
def Verdict (env : ProgramEnv) (passString : PassString) : Prop :=
  Completed env →
    (callProgram env passString = EXIT_SUCCESS ↔ passString.text <:+: env.log)

theorem searchLog_success (passString : List Char) (bufs : List (List Char)) :
    searchLog passString bufs = EXIT_SUCCESS ↔ ∃ buf ∈ bufs, strstr buf passString = true := by
  induction bufs with
  | nil => simp [searchLog, EXIT_SUCCESS, EXIT_FAILURE]
  | cons buf rest ih =>
      rw [searchLog]
      by_cases hit : strstr buf passString = true
      · simp [hit]
      · simp [hit, ih]

theorem strstr_iff (passString : PassString) {buf : List Char}
    (short : buf.length ≤ passString.text.length) :
    strstr buf passString.text = true ↔ buf = passString.text := by
  rw [strstr, decide_eq_true_eq]
  constructor
  · intro found
    have front := List.takeWhile_prefix (l := buf) (· ≠ '\x00')
    have inside := found.trans front.isInfix
    exact (inside.eq_of_length (by have := inside.length_le; omega)).symm
  · intro same
    have whole : buf.takeWhile (· ≠ '\x00') = buf := by
      apply List.takeWhile_eq_self_iff.mpr
      intro c member
      simpa using fun nul : c = '\x00' => passString.noNul (same ▸ nul ▸ member)
    rw [whole, same]

theorem searchLog_pieces (passString : PassString) (log : List Char) :
    searchLog passString.text (pieces '\n' passString.text.length log) = EXIT_SUCCESS ↔
      ∃ before after, log = before ++ passString.text ++ after ∧
        passString.text.length ∣ column '\n' before := by
  rw [← mem_pieces_iff '\n' passString.oneLine passString.nonempty, searchLog_success]
  constructor
  · rintro ⟨buf, member, hit⟩
    rw [(strstr_iff passString (length_le_of_mem_pieces '\n' member)).mp hit] at member
    exact member
  · exact fun member => ⟨_, member, (strstr_iff passString le_rfl).mpr rfl⟩

theorem callProgram_completed {env : ProgramEnv} (completed : Completed env)
    (passString : PassString) :
    callProgram env passString = EXIT_SUCCESS ↔ env.lseek = true ∧ env.fdopen = true ∧
      searchLog passString.text (pieces '\n' passString.text.length env.log) = EXIT_SUCCESS := by
  rw [callProgram, completed.openLog, completed.fork, completed.sigaction, completed.exited]
  by_cases sought : env.lseek = true
  · by_cases opened : env.fdopen = true
    · simp [sought, opened, EXIT_SUCCESS]
    · simp [opened, EXIT_SUCCESS, EXIT_FAILURE]
  · simp [sought, EXIT_SUCCESS, EXIT_FAILURE]

/-- The verdict on a completed child is right exactly when the string is not in the log, or the
log can be read back and has the string at a multiple of its length from the start of a line. -/
theorem call_program_verdict_iff (env : ProgramEnv) (passString : PassString) :
    Verdict env passString ↔
      (Completed env → passString.text <:+: env.log →
        env.lseek = true ∧ env.fdopen = true ∧
          ∃ before after, env.log = before ++ passString.text ++ after ∧
            passString.text.length ∣ column '\n' before) := by
  refine forall_congr' fun completed => ?_
  rw [callProgram_completed completed, searchLog_pieces]
  constructor
  · exact fun verdict => verdict.mpr
  · intro aligned
    refine ⟨?_, aligned⟩
    rintro ⟨-, -, before, after, occurrence, -⟩
    exact ⟨before, after, occurrence.symm⟩

def passed : PassString := ⟨['o', 'k'], by decide, by decide, by decide⟩

/-- A child that has written `-ok` and ended with success. -/
def shiftedLog : ProgramEnv where
  openLog := true
  fork := true
  sigaction := true
  waitpid := .exited 0
  lseek := true
  fdopen := true
  log := ['-', 'o', 'k', '\n']

/-- The log is read as `-o`, `k` and the line break, so `ok` is not found in it. -/
theorem shifted_log_missed : ¬ Verdict shiftedLog passed := by
  intro verdict
  have completed : Completed shiftedLog := ⟨rfl, rfl, rfl, rfl⟩
  have missed : callProgram shiftedLog passed ≠ EXIT_SUCCESS := by decide
  exact missed ((verdict completed).mpr ⟨['-'], ['\n'], rfl⟩)

end A500cg.Util
