import SessionHost.Proofs.Command.Runtimes
import SessionHost.Session.Rehearsed

/-!
What verbosity and the quiet setting change.

They decide which lines are printed and nothing else, for calls to the console and for the command
that opens a profile. Main statement: `output_grows`.
-/

namespace SessionHost.Command

open Session Text Protocol

/-- **What is printed grows with verbosity, and what is quiet tells of errors only.** A console is
set up in some way, and then any calls are made but that for the path of the log file. Each set-up
prints lines after those printed before. Quiet, these are the lines of the errors, one for each
call, in their order; they are some of those that are printed if nothing else is chosen, which are
some of those that any higher verbosity prints. All higher verbosities print the same.

So with any runtime a profile is opened with the same calls, however the console was set up: the
command comes back with the same, leaves the runtime the same, and but for what is shown leaves the
console the same. -/
theorem output_grows (console : Console) (dir : Option Path) :
    let ready (verbosity : UInt8) (quiet : Bool) := (console.setUp verbosity quiet dir).1
    (∀ calls : List Console.Call, .showLogPath ∉ calls →
      let shown (verbosity : UInt8) (quiet : Bool) := console.shown dir verbosity quiet calls
      (∀ verbosity quiet,
        ((ready verbosity quiet).performAll calls).err = console.err ++ shown verbosity quiet) ∧
      (∀ verbosity, shown verbosity true = calls.filterMap console.failure?) ∧
      (∀ verbosity, (shown verbosity true).Sublist (shown 0 false)) ∧
      (∀ verbosity, 1 ≤ verbosity → (shown 0 false).Sublist (shown verbosity false)) ∧
      ∀ verbosity other quiet, 1 ≤ verbosity → 1 ≤ other →
        shown verbosity quiet = shown other quiet) ∧
    ∀ (ρ : Type) (runtime : Runtime Machine ρ) (profile : Path) (appId : String) (inside : ρ),
      ∃ (calls : List Console.Call) (left : ρ) (outcome : Outcome Error Int32),
        .showLogPath ∉ calls ∧ ∀ verbosity quiet,
          openWith runtime profile appId (ready verbosity quiet, inside)
              = (((ready verbosity quiet).performAll calls, left), outcome) ∧
            ((ready verbosity quiet).performAll calls).blind
              = ((ready 0 false).performAll calls).blind := by
  intro ready
  refine ⟨fun calls others => ⟨?_, ?_, ?_, ?_, ?_⟩, fun ρ runtime profile appId inside => ?_⟩
  · exact console.err_performAll_setUp dir calls
  · exact fun verbosity => console.shown_of_quiet dir calls verbosity others
  · exact fun verbosity => console.shown_sublist dir calls (by simp) (by simp)
  · exact fun verbosity verbose => console.shown_sublist dir calls id (by simp [verbose])
  · exact fun verbosity other quiet verbose loud =>
      console.shown_eq dir calls (by simp [verbose, loud])
  · have alike (verbosity : UInt8) (quiet : Bool) :
        (ready verbosity quiet).blind = (ready 0 false).blind :=
      (Console.setUp_congr rfl verbosity 0 quiet false dir).1
    obtain ⟨calls, left, outcome, others, opens⟩ :=
      exists_openWith runtime profile appId (ready 0 false) inside
    exact ⟨calls, left, outcome, others, fun verbosity quiet =>
      ⟨opens _ (alike verbosity quiet),
        Console.blind_performAll_congr (alike verbosity quiet) calls⟩⟩

/-- Some calls, and a profile that cannot be opened because the runtime leaves off early. -/
theorem output_grows_mixed_calls :
    let files : FileSystem := { cwd := [], nodes := [([encode "game.toml"], .file [])] }
    let console := Console.fresh ⟨⟨none, none, none, none⟩, files⟩ "noon" false
    let dir : Option Path := some ⟨encode "logs"⟩
    let calls : List Console.Call :=
      [.info "a", .warn "b", .spinnerError "c", .debug "d", .success "e", .error "f"]
    let quiet : List String := ["  \u2717 c", "Error: f"]
    let plain : List String := ["warning: b", "  \u2717 c", "\u2714 e", "Error: f"]
    let verbose : List String :=
      ["a", "warning: b", "  \u2717 c", "DEBUG: d", "\u2714 e", "Error: f"]
    let runtime : Runtime Machine Rehearsal :=
      .rehearsed ⟨[⟨some rehearsedHandle, true⟩], .first⟩
    let rehearsal : Rehearsal := ⟨[], [⟨⟨0, none⟩, true⟩]⟩
    let opened (verbosity : UInt8) (quiet : Bool) :=
      openWith runtime ⟨encode "game.toml"⟩ "io.demo"
        ((console.setUp verbosity quiet dir).1, rehearsal)
    ((console.setUp 3 true dir).1.performAll calls).err = quiet ∧
      ((console.setUp 0 false dir).1.performAll calls).err = plain ∧
      ((console.setUp 2 false dir).1.performAll calls).err = verbose ∧
      quiet.Sublist plain ∧ plain.Sublist verbose ∧
      (opened 3 true).2 = (opened 2 false).2 ∧
      (opened 3 true).1.1.machine = (opened 2 false).1.1.machine := by
  intro files console dir calls quiet plain verbose runtime rehearsal opened
  obtain ⟨shows, opens⟩ := output_grows console dir
  obtain ⟨prints, -, fewer, more, -⟩ := shows calls (by decide)
  obtain ⟨asked, left, outcome, -, alike⟩ :=
    opens Rehearsal runtime ⟨encode "game.toml"⟩ "io.demo" rehearsal
  have hushed := alike 3 true
  have loud := alike 2 false
  have silent : console.shown dir 3 true calls = quiet := by decide +kernel
  have middle : console.shown dir 0 false calls = plain := by decide +kernel
  have most : console.shown dir 2 false calls = verbose := by decide +kernel
  refine ⟨?_, ?_, ?_, ?_, ?_, ?_, ?_⟩
  · exact (prints 3 true).trans silent
  · exact (prints 0 false).trans middle
  · exact (prints 2 false).trans most
  · rw [← silent, ← middle]
    exact fewer 3
  · rw [← middle, ← most]
    exact more 2 (by decide)
  · exact (congrArg Prod.snd hushed.1).trans (congrArg Prod.snd loud.1).symm
  · have same := (Console.blind_eq_iff.mp (hushed.2.trans loud.2.symm)).1
    exact (congrArg (·.1.1.machine) hushed.1).trans
      (same.trans (congrArg (·.1.1.machine) loud.1).symm)

end SessionHost.Command
