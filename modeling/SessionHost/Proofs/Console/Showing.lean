import SessionHost.Proofs.Console.LogFile

/-!
What a console shows, and what it does besides.

`perform_eq` says what a call changes. `blind` is a console without what it shows; what calls and
set-ups do to it depends on neither verbosity nor the quiet setting (`blind_performAll_congr`,
`setUp_congr`). What calls show is the lines that they print (`err_performAll`), and a console that
is to show less shows some of the lines (`printed?_of_less`).
-/

namespace SessionHost.Console

variable {one other : Console}

/-! ### What a call changes -/

/-- A line in the log file changes the machine only. -/
theorem logCall_eq (call : Call) (console : Console) :
    console.logCall call = { console with machine := (console.logCall call).machine } := by
  unfold logCall
  split
  · unfold log
    split
    · rfl
    · split <;> rfl
  · rfl

/-- It depends on the log file, the time and the machine. -/
theorem machine_logCall_congr (logFile : one.logFile = other.logFile)
    (clock : one.clock = other.clock) (machine : one.machine = other.machine) (call : Call) :
    (one.logCall call).machine = (other.logCall call).machine := by
  unfold logCall
  cases call.logged? with
  | none => exact machine
  | some message =>
      simp only [log, logFile, clock, machine]
      cases other.logFile with
      | none => exact machine
      | some path =>
          simp only
          cases other.machine.files.append path (logLine other.clock message) with
          | ok files => rfl
          | error error => exact machine

/-- What is printed of a call depends on how the console is set up and nothing else. -/
theorem printed?_eq (machine : Machine) (spinner progressBar : Bool) (console : Console) :
    printed? { console with machine, spinner, progressBar } = console.printed? := by
  funext call
  cases call <;> rfl

/-- **A call** may add a line to the log file, moves spinner and progress bar, and prints its line.
Nothing else changes. -/
theorem perform_eq (console : Console) (call : Call) :
    console.perform call
      = { console with
          machine := (console.logCall call).machine
          spinner := console.spinnerAfter call
          progressBar := console.progressBarAfter call
          err := console.err ++ (console.printed? call).toList } := by
  let turning : Console :=
    { console with
      spinner := console.spinnerAfter call
      progressBar := console.progressBarAfter call }
  have logged : (turning.logCall call).machine = (console.logCall call).machine := by
    apply machine_logCall_congr <;> rfl
  have step : console.perform call = (turning.logCall call).printCall call := rfl
  rw [step, logCall_eq, logged, printCall, printed?_eq, printed?_eq]
  cases console.printed? call with
  | none => simp [turning]
  | some line => rfl

/-! ### What is done besides showing -/

/-- The console without what it shows and how much that is. -/
def blind (console : Console) : Console :=
  { console with verbosity := 0, quiet := false, spinner := false, progressBar := false, err := [] }

theorem blind_eq_iff :
    one.blind = other.blind ↔
      one.machine = other.machine ∧ one.clock = other.clock ∧ one.color = other.color ∧
        one.logFile = other.logFile ∧ one.out = other.out := by
  simp [blind]

/-- Consoles that differ only in what they show are still alike after a call. -/
theorem blind_perform_congr (same : one.blind = other.blind) (call : Call) :
    (one.perform call).blind = (other.perform call).blind := by
  obtain ⟨machine, clock, color, logFile, out⟩ := blind_eq_iff.mp same
  have logged := machine_logCall_congr logFile clock machine call
  simp only [perform_eq, blind, logged, clock, color, logFile, out]

/-- **So they are after any calls.** -/
theorem blind_performAll_congr (same : one.blind = other.blind) (calls : List Call) :
    (one.performAll calls).blind = (other.performAll calls).blind := by
  induction calls generalizing one other with
  | nil => exact same
  | cons call rest ih => exact ih (blind_perform_congr same call)

/-- **Setting up** comes to the same whatever is to be shown from then on. -/
theorem setUp_congr (same : one.blind = other.blind) (verbosity verbosity' : UInt8)
    (quiet quiet' : Bool) (dir : Option Path) :
    (one.setUp verbosity quiet dir).1.blind = (other.setUp verbosity' quiet' dir).1.blind ∧
      (one.setUp verbosity quiet dir).2 = (other.setUp verbosity' quiet' dir).2 := by
  obtain ⟨machine, clock, color, logFile, out⟩ := blind_eq_iff.mp same
  constructor
  · simp only [setUp_fst, blind, machine, clock, color, logFile, out]
  · simp only [setUp, machine]
    cases logDirectory other.machine.environment dir with
    | error error => rfl
    | ok dir =>
        simp only
        obtain ⟨made, outcome⟩ := other.machine.files.makeDirectories dir
        cases outcome <;> rfl

/-! ### What is shown -/

/-- What is printed of the calls after a call is what would be printed of them before it. -/
theorem printed?_perform (console : Console) (call : Call) :
    (console.perform call).printed? = console.printed? := by
  rw [perform_eq]
  funext later
  cases later <;> rfl

/-- **What calls show is the lines that they print**, in their order. -/
theorem err_performAll (console : Console) (calls : List Call) :
    (console.performAll calls).err = console.err ++ calls.filterMap console.printed? := by
  induction calls generalizing console with
  | nil => exact (List.append_nil _).symm
  | cons call rest ih =>
      have step : (console.perform call).err
          = console.err ++ (console.printed? call).toList := by rw [perform_eq]
      refine (ih (console.perform call)).trans ?_
      rw [printed?_perform, step, List.append_assoc, List.filterMap_cons]
      cases console.printed? call <;> rfl

/-! ### Showing more and less -/

/-- Of two consoles that are alike otherwise, one that is quiet if the other is, and not verbose
unless the other is, prints some of the lines of the other. -/
theorem printed?_of_less (color : one.color = other.color) (logFile : one.logFile = other.logFile)
    (quieter : other.quiet = true → one.quiet = true)
    (terser : one.isVerbose = true → other.isVerbose = true) (call : Call) :
    one.printed? call = none ∨ one.printed? call = other.printed? call := by
  -- A call is printed by verbose consoles, by those that are not quiet, or by all.
  have verbose (line : String) :
      (if one.isVerbose then some line else none) = none ∨
        (if one.isVerbose then some line else none)
          = if other.isVerbose then some line else none := by
    cases shown : one.isVerbose with
    | false => exact .inl rfl
    | true =>
        rw [terser shown]
        exact .inr rfl
  have loud (line : String) :
      (if one.quiet then none else some line) = none ∨
        (if one.quiet then none else some line) = if other.quiet then none else some line := by
    cases quiet : other.quiet with
    | false => cases one.quiet <;> simp
    | true =>
        rw [quieter quiet]
        exact .inl rfl
  cases call with
  | info text => exact verbose _
  | debug text =>
      simp only [printed?, paint, color]
      exact verbose _
  | warn text =>
      simp only [printed?, paint, color]
      exact loud _
  | success text =>
      simp only [printed?, paint, color]
      exact loud _
  | spinnerSuccess text =>
      simp only [printed?, paint, color]
      exact loud _
  | error text => exact .inr (by simp only [printed?, paint, color])
  | spinnerError text => exact .inr (by simp only [printed?, paint, color])
  | showLogPath => exact .inr (by simp only [printed?, logFile])
  | _ => exact .inl rfl

/-- What is printed of some calls and not of others is in between what is printed of all. -/
theorem filterMap_sublist_of_less {α β : Type} {less more : α → Option β}
    (subset : ∀ a, less a = none ∨ less a = more a) (as : List α) :
    (as.filterMap less).Sublist (as.filterMap more) := by
  induction as with
  | nil => exact .refl _
  | cons a rest ih =>
      rw [List.filterMap_cons, List.filterMap_cons]
      rcases subset a with none | same
      · rw [none]
        cases more a with
        | none => exact ih
        | some line => exact ih.cons line
      · rw [same]
        cases more a with
        | none => exact ih
        | some line => exact ih.cons_cons line

/-- The line of a call that tells of an error. -/
def failure? (console : Console) : Call → Option String
  | .error text => some (console.paint .boldRed "Error:" ++ " " ++ text)
  | .spinnerError text => some ("  " ++ console.paint .boldRed cross ++ " " ++ text)
  | _ => none

/-- A quiet console prints of errors only, unless it is asked where its log file is. -/
theorem printed?_of_quiet {console : Console} (quiet : console.quiet = true) {call : Call}
    (other : call ≠ .showLogPath) : console.printed? call = console.failure? call := by
  cases call with
  | showLogPath => exact absurd rfl other
  | _ => simp [printed?, failure?, isVerbose, quiet]

/-- The lines that calls print on the console once it is set up. -/
def shown (console : Console) (dir : Option Path) (verbosity : UInt8) (quiet : Bool)
    (calls : List Call) : List String :=
  calls.filterMap (console.setUp verbosity quiet dir).1.printed?

section

variable (console : Console) (dir : Option Path) (calls : List Call)

/-- A set-up that is to show less shows some of the lines. -/
theorem shown_sublist {verbosity verbosity' : UInt8} {quiet quiet' : Bool}
    (quieter : quiet' = true → quiet = true)
    (terser : 1 ≤ verbosity ∧ quiet = false → 1 ≤ verbosity' ∧ quiet' = false) :
    (console.shown dir verbosity quiet calls).Sublist
      (console.shown dir verbosity' quiet' calls) := by
  refine filterMap_sublist_of_less (printed?_of_less ?_ ?_ ?_ ?_) calls
  · rw [setUp_fst, setUp_fst]
  · rw [setUp_fst, setUp_fst]
  · rw [setUp_fst, setUp_fst]
    exact quieter
  · simpa [setUp_fst, isVerbose] using terser

/-- Two set-ups that are to show as much show the same. -/
theorem shown_eq {verbosity verbosity' : UInt8} {quiet : Bool}
    (same : 1 ≤ verbosity ↔ 1 ≤ verbosity') :
    console.shown dir verbosity quiet calls = console.shown dir verbosity' quiet calls :=
  (shown_sublist console dir calls id (And.imp_left same.mp)).antisymm
    (shown_sublist console dir calls id (And.imp_left same.mpr))

/-- A quiet set-up shows the errors. -/
theorem shown_of_quiet (verbosity : UInt8) (others : .showLogPath ∉ calls) :
    console.shown dir verbosity true calls = calls.filterMap console.failure? := by
  refine List.filterMap_congr fun call member => ?_
  have other : call ≠ .showLogPath := by
    rintro rfl
    exact others member
  have failures : (console.setUp verbosity true dir).1.failure? = console.failure? := by
    rw [setUp_fst]
    rfl
  rw [← failures]
  refine printed?_of_quiet ?_ other
  rw [setUp_fst]

/-- What is printed once the console is set up comes after what was printed before. -/
theorem err_performAll_setUp (verbosity : UInt8) (quiet : Bool) :
    ((console.setUp verbosity quiet dir).1.performAll calls).err
      = console.err ++ console.shown dir verbosity quiet calls := by
  rw [err_performAll]
  congr 1
  rw [setUp_fst]

end

end SessionHost.Console
