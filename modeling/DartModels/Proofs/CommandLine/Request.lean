import DartModels.CommandLine.Request
import DartModels.Proofs.Outcome

namespace DartModels.CommandLine

/-- The words that make a setting. -/
def settingWords (setting : Switch × String) : List String :=
  if setting.1.takesValue then [setting.1.long, setting.2] else [setting.1.long]

theorem readWord_long {switch : Switch} (hswitch : switch ∈ Command.generate.switches) :
    readWord Command.generate.switches switch.long =
      .ok (if switch.takesValue then .awaiting [] switch switch.long
        else .complete [(switch, "")]) := by
  cases switch with
  | json => exact absurd hswitch (by decide)
  | _ => rfl

/-- A setting is read from its words, and then what stands behind them. -/
theorem readWords_settingWords {setting : Switch × String}
    (hswitch : setting.1 ∈ Command.generate.switches)
    (hvalue : setting.1.takesValue = false → setting.2 = "") (rest : List String) :
    readWords Command.generate.switches true (settingWords setting ++ rest) =
      (readWords Command.generate.switches true rest).map fun given =>
        { given with settings := setting :: given.settings } := by
  obtain ⟨switch, value⟩ := setting
  have hword := readWord_long hswitch
  have hdashes : switch.long ≠ "--" := by cases switch <;> decide
  unfold settingWords
  cases htakes : switch.takesValue with
  | true =>
    simp only [htakes, if_true] at hword ⊢
    rw [List.cons_append, List.cons_append, List.nil_append, readWords, if_neg hdashes, hword]
    rfl
  | false =>
    obtain rfl : value = "" := hvalue htakes
    simp only [htakes, Bool.false_eq_true, if_false] at hword ⊢
    rw [List.cons_append, List.nil_append, readWords.eq_def]
    simp only [if_neg hdashes, hword]
    rfl

/-- Each combination of settings can be given. -/
theorem ofWords_settingWords (settings : List (Switch × String)) (metadata : String)
    (hsettings : ∀ setting ∈ settings, setting.1 ∈ Command.generate.switches ∧
      setting.1 ≠ .help ∧ (setting.1.takesValue = false → setting.2 = "")) :
    Invocation.ofWords ("generate" :: (settings.flatMap settingWords ++ ["--", metadata])) =
      .ok (.perform .generate { settings, operands := [metadata] }) := by
  have hread : readWords Command.generate.switches true
      (settings.flatMap settingWords ++ ["--", metadata]) =
        .ok { settings, operands := [metadata] } := by
    induction settings with
    | nil => rfl
    | cons setting settings ih =>
      rw [List.forall_mem_cons] at hsettings
      obtain ⟨⟨hswitch, -, hvalue⟩, hrest⟩ := hsettings
      rw [List.flatMap_cons, List.append_assoc, readWords_settingWords hswitch hvalue, ih hrest]
      rfl
  have hhelp : Given.has { settings, operands := [metadata] } .help = false := by
    simpa [Given.has] using fun setting hsetting => (hsettings setting hsetting).2.1
  change Command.invocation .generate (settings.flatMap settingWords ++ ["--", metadata]) = _
  simp only [Command.invocation, hread, hhelp, Bool.false_eq_true, if_false]

/-- A command line can be carried out on a snapshot: it names nothing else, the snapshot is there,
    a file that it names for the classes can be written, and there is a report of the form that it
    names. -/
structure Given.IsReady (given : Given) (folder : Folder) (metadata : String) : Prop where
  operands : given.operands = [metadata]
  isPath : Snapshot.isPath metadata = true
  isThere : ∃ bytes, folder metadata = .ok bytes
  isOutputPath : ∀ path, given.last? .output = some path → Snapshot.isPath path = true
  isWritable : ∀ path, given.last? .output = some path →
    folder path ≠ .error .isDirectory ∧ folder path ≠ .error .forbidden
  isReport : ∀ name, given.last? .diagnostics = some name → name ∈ reportNames

/-- The file that a command line names for the classes. An empty name is none. -/
def Given.target? (given : Given) : Option String :=
  (given.last? .output).filter (· != "")

/-- What a command line sets for a generation. -/
def Given.generation (given : Given) : Generation where
  output := given.target?
  schemas := given.values .schema
  locales := given.values .locale
  functions := given.values .checkFunction
  report := reportOf (given.last? .diagnostics)
  isVerbose := given.has .verbose

section

variable {given : Given} {folder : Folder} {metadata : String}

theorem Given.IsReady.accept (hready : given.IsReady folder metadata) (switch : Switch) :
    given.accept folder switch = .ok () := by
  unfold Given.accept
  split
  · next path hpath =>
    obtain ⟨hdirectory, hforbidden⟩ := hready.isWritable path hpath
    rw [acceptOutput, hready.isOutputPath path hpath]
    split
    · next hfalse => cases hfalse
    · split
      · next h => exact absurd h hdirectory
      · next h => exact absurd h hforbidden
      · rfl
  · next name hname =>
    rw [acceptReport, if_pos (by simpa using hready.isReport name hname)]
  · rfl

theorem Given.IsReady.request (hready : given.IsReady folder metadata) :
    given.request folder .generate = .ok ⟨metadata, Command.generate.task given⟩ := by
  obtain ⟨bytes, hbytes⟩ := hready.isThere
  have haccept : given.settings.forM (fun setting => given.accept folder setting.1) = .ok () :=
    forM_eq_ok fun setting _ => hready.accept setting.1
  have hmetadata : acceptMetadata folder metadata = .ok () := by
    rw [acceptMetadata, hready.isPath, hbytes]
    rfl
  rw [Given.request, haccept, ok_bind, hready.operands]
  simp only [hmetadata]
  rfl

end

end DartModels.CommandLine
