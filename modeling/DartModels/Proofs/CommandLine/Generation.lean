import DartModels.CommandLine.Run
import DartModels.Proofs.CommandLine.Request
import DartModels.Proofs.Dart.Encoding
import DartModels.Proofs.Dart.Enum
import DartModels.Proofs.Report.Contents
import DartModels.Proofs.Text.Unstyled
import DartModels.Proofs.Traced

namespace DartModels.CommandLine

/-- What an effect writes to the output of the program. -/
def Effect.output : Effect → String
  | .out text => text
  | .err _ | .save .. => ""

/-- What an effect writes to the messages of the program. -/
def Effect.message : Effect → String
  | .err text => text
  | .out _ | .save .. => ""

/-- The file that an effect writes, with its content. -/
def Effect.file? : Effect → Option (String × String)
  | .save path content => some (path, content)
  | .out _ | .err _ => none

namespace Run

section

variable {α : Type}

/-- All that a run writes to the output of the program. -/
def output (run : Run α) : String :=
  String.join (run.trace.map Effect.output)

/-- All that a run writes to the messages of the program. -/
def messages (run : Run α) : String :=
  String.join (run.trace.map Effect.message)

/-- The files that a run writes, with their contents, in order. -/
def files (run : Run α) : List (String × String) :=
  run.trace.filterMap Effect.file?

/-- How a run ends, and all that it writes to the output, to the messages and to files. -/
structure Shows (run : Run Unit) (outcome : Except Stop Unit) (output messages : String)
    (files : List (String × String)) : Prop where
  outcome_eq : run.outcome = outcome
  output_eq : run.output = output
  messages_eq : run.messages = messages
  files_eq : run.files = files

theorem Shows.pure : Shows (pure ()) (.ok ()) "" "" [] :=
  ⟨rfl, rfl, rfl, rfl⟩

/-- What a second run shows comes behind what the first one shows. -/
theorem Shows.andThen {first next : Run Unit} {outcome : Except Stop Unit}
    {output messages nextOutput nextMessages : String} {files nextFiles : List (String × String)}
    (hfirst : Shows first (.ok ()) output messages files)
    (hnext : Shows next outcome nextOutput nextMessages nextFiles) :
    Shows (do first; next) outcome (output ++ nextOutput) (messages ++ nextMessages)
      (files ++ nextFiles) := by
  obtain ⟨hend, rfl, rfl, rfl⟩ := hfirst
  obtain ⟨hnextEnd, rfl, rfl, rfl⟩ := hnext
  have htrace := Traced.trace_bind_of_ok hend fun _ => next
  constructor
  · rw [Traced.outcome_bind, hend, ok_bind, hnextEnd]
  · simp [Run.output, htrace]
  · simp [Run.messages, htrace]
  · simp [Run.files, htrace]

/-- What would come behind a run that stops does not show. -/
theorem Shows.stopped {first : Run Unit} {reason : Stop} {output messages : String}
    {files : List (String × String)} (hfirst : Shows first (.error reason) output messages files)
    (next : Run Unit) : Shows (do first; next) (.error reason) output messages files := by
  have hnext : (do first; next) = first := by
    obtain ⟨trace, outcome⟩ := first
    cases hfirst.outcome_eq
    rfl
  rwa [hnext]

end

variable [Text.HalfBlock] {text path content : String}

theorem Shows.print (htext : Text.isEncodable text = true) :
    Shows (print text) (.ok ()) (Text.unstyled text) "" [] := by
  rw [Run.print, if_pos htext]
  exact ⟨rfl, by simp [Run.output, Traced.tell, Effect.output], rfl, rfl⟩

theorem Shows.print_stopped (htext : Text.isEncodable text = false) :
    Shows (Run.print text) (.error (.fault .notEncodable)) "" "" [] := by
  rw [Run.print, if_neg (by simp [htext])]
  exact ⟨rfl, rfl, rfl, rfl⟩

theorem Shows.complain (text : String) :
    Shows (complain text) (.ok ()) "" (Text.encodable (Text.unstyled (text ++ "\n"))) [] :=
  ⟨rfl, rfl, by simp [Run.messages, Run.complain, Traced.tell, Effect.message], rfl⟩

theorem Shows.save (hcontent : Text.isEncodable content = true) :
    Shows (save path content) (.ok ()) "" "" [(path, content)] := by
  rw [Run.save, if_pos hcontent]
  exact ⟨rfl, rfl, rfl, rfl⟩

/-- A file that cannot be written is left empty. -/
theorem Shows.save_stopped (hcontent : Text.isEncodable content = false) :
    Shows (Run.save path content) (.error (.fault .notEncodable)) "" "" [(path, "")] := by
  rw [Run.save, if_neg (by simp [hcontent])]
  exact ⟨rfl, rfl, rfl, rfl⟩

end Run

/-- The generator of a command line: what is given stands in place of the defaults. -/
def Given.generator (given : Given) : Generator where
  locales := orDefault (given.values .locale) ["en"]
  functions := orDefault (given.values .checkFunction) Constraint.defaultFunctions
  schemas := if (given.values .schema).isEmpty then none else some (given.values .schema)

@[simp] theorem Given.generator_generation (given : Given) :
    given.generation.generator = given.generator :=
  rfl

@[simp] theorem Given.output_generation (given : Given) :
    given.generation.output = given.target? :=
  rfl

@[simp] theorem Given.report_generation (given : Given) :
    given.generation.report = reportOf (given.last? .diagnostics) :=
  rfl

@[simp] theorem ofFault_ok {α : Type} (value : α) : Failure.ofFault (.ok value) = .ok value :=
  rfl

@[simp] theorem ofFault_error {α : Type} (fault : Fault) :
    Failure.ofFault (.error fault : Except Fault α) = .error (.fault fault) :=
  rfl

section

variable [Text.HalfBlock]

/-- What is settled for the snapshot. -/
def Given.resolution (given : Given) (folder : Folder) (metadata : String) :
    Except Failure Resolution := do
  given.generator.resolve (← loaded folder metadata)

/-- The classes for the snapshot. -/
def Given.source (given : Given) (folder : Folder) (metadata : String) : Except Failure String := do
  given.generator.generate (← loaded folder metadata)

/-- The id is shown if a command line asks for details. -/
def Given.shown (given : Given) (correlation : String) : Option String :=
  if given.has .verbose then some correlation else none

variable {given : Given} {folder : Folder} {metadata : String}

theorem Given.IsReady.run (hready : given.IsReady folder metadata) {words : List String}
    (hwords : Invocation.ofWords words = .ok (.perform .generate given)) (correlation : String) :
    CommandLine.run folder correlation words =
      generate folder correlation metadata given.generation := by
  rw [CommandLine.run, hwords]
  simp only [Invocation.run, hready.request]
  rfl

theorem ofFailure_error_bind {α β : Type} (correlation : Option String) (failure : Failure)
    (next : α → Run β) :
    (Run.ofFailure correlation (.error failure) >>= next) =
      Run.ofFailure correlation (.error failure) := by
  cases failure <;> rfl

/-- Classes are written from what is settled. -/
theorem source_eq_ok {source : String} (hsource : given.source folder metadata = .ok source) :
    ∃ snapshot resolution, loaded folder metadata = .ok snapshot ∧
      given.generator.resolve snapshot = .ok resolution ∧
      given.generator.render snapshot resolution = .ok source := by
  obtain ⟨snapshot, hsnapshot, hgenerate⟩ := bind_eq_ok_iff.mp hsource
  obtain ⟨resolution, hresolution, hrender⟩ := bind_eq_ok_iff.mp hgenerate
  refine ⟨snapshot, resolution, hsnapshot, hresolution, ?_⟩
  cases hresult : given.generator.render snapshot resolution with
  | error fault =>
    rw [hresult] at hrender
    cases hrender
  | ok text =>
    rw [hresult] at hrender
    cases hrender
    rfl

/-- Where there are no classes, nothing is done but to report why. -/
theorem generate_of_error {failure : Failure} (correlation : String)
    (hsource : given.source folder metadata = .error failure) :
    generate folder correlation metadata given.generation =
      Run.ofFailure (given.shown correlation) (.error failure) := by
  unfold Given.source Generator.generate at hsource
  unfold generate
  simp only [Given.generator_generation]
  cases hsnapshot : loaded folder metadata with
  | error other =>
    rw [hsnapshot] at hsource
    cases hsource
    exact ofFailure_error_bind ..
  | ok snapshot =>
    rw [hsnapshot, ok_bind] at hsource
    cases hresolution : given.generator.resolve snapshot with
    | error other =>
      rw [hresolution] at hsource
      cases hsource
      rw [ok_bind, hresolution]
      exact ofFailure_error_bind ..
    | ok resolution =>
      rw [hresolution, ok_bind] at hsource
      rw [ok_bind, hresolution, ok_bind, hsource]
      exact ofFailure_error_bind ..

/-- What is said about a file that was written. -/
def notice (path : String) (resolution : Resolution) : String :=
  Text.encodable (Text.unstyled ("✅ Wrote " ++ toString resolution.declarables.length ++
    " declarations to " ++ path ++ "\n"))

/-- What is said about diagnostics. -/
def remarks (format : Option Report.Format) (diagnostics : List Diagnostic) : String :=
  match format with
  | none => ""
  | some format =>
    if diagnostics.isEmpty then ""
    else Text.encodable (Text.unstyled (Report.write format diagnostics ++ "\n"))

/-- Diagnostics go to the messages. -/
theorem shows_remarks (format : Option Report.Format) (diagnostics : List Diagnostic) :
    Run.Shows (match format with
      | some format =>
        if diagnostics.isEmpty then pure () else Run.complain (Report.write format diagnostics)
      | none => pure ()) (.ok ()) "" (remarks format diagnostics) [] := by
  cases format with
  | none => exact .pure
  | some format =>
    unfold remarks
    dsimp only
    split
    · exact .pure
    · exact .complain _

/-- Classes go to one place, and all that is said about them to the messages. -/
theorem generate_of_ok {snapshot : Snapshot} {resolution : Resolution} {source : String}
    (correlation : String) (hsnapshot : loaded folder metadata = .ok snapshot)
    (hresolution : given.generator.resolve snapshot = .ok resolution)
    (hsource : given.generator.render snapshot resolution = .ok source)
    (hencodable : Text.isEncodable source = true) :
    match given.target? with
    | some path =>
      (generate folder correlation metadata given.generation).Shows (.ok ()) ""
        (notice path resolution ++
          remarks (reportOf (given.last? .diagnostics)) resolution.diagnostics)
        [(Snapshot.normalPath path, source)]
    | none =>
      (generate folder correlation metadata given.generation).Shows (.ok ()) (Text.unstyled source)
        (remarks (reportOf (given.last? .diagnostics)) resolution.diagnostics) [] := by
  have hremarks := shows_remarks (reportOf (given.last? .diagnostics)) resolution.diagnostics
  unfold generate
  simp only [Given.generator_generation, Given.output_generation, Given.report_generation,
    hsnapshot, hresolution, hsource, ok_bind, ofFault_ok, pure_eq_ok, Run.ofFailure, pure_bind]
  cases given.target? with
  | some path =>
    have hsave : Run.Shows (Run.save (Snapshot.normalPath path) source) .. := .save hencodable
    have hrun := hsave.andThen
      ((Run.Shows.complain ("✅ Wrote " ++ toString resolution.declarables.length ++
        " declarations to " ++ path)).andThen hremarks)
    simp only [String.empty_append, List.append_nil] at hrun
    exact hrun
  | none =>
    have hrun := (Run.Shows.print hencodable).andThen hremarks
    simp only [String.append_empty, String.empty_append, List.append_nil] at hrun
    exact hrun

/-- Classes that cannot be encoded are not written, but the file that is named for them is
    emptied. -/
theorem generate_of_notEncodable {snapshot : Snapshot} {resolution : Resolution} {source : String}
    (correlation : String) (hsnapshot : loaded folder metadata = .ok snapshot)
    (hresolution : given.generator.resolve snapshot = .ok resolution)
    (hsource : given.generator.render snapshot resolution = .ok source)
    (hencodable : Text.isEncodable source = false) :
    (generate folder correlation metadata given.generation).Shows (.error (.fault .notEncodable))
      "" "" (given.target?.toList.map fun path => (Snapshot.normalPath path, "")) := by
  unfold generate
  simp only [Given.generator_generation, Given.output_generation, hsnapshot, hresolution, hsource,
    ok_bind, ofFault_ok, pure_eq_ok, Run.ofFailure, pure_bind]
  cases given.target? with
  | some path =>
    exact (Run.Shows.save_stopped hencodable).stopped _
  | none => exact (Run.Shows.print_stopped hencodable).stopped _

/-- Messages report a problem: its code and its message, its context if it has one, and each of its
    suggestions, on lines of their own. -/
def Reports (problem : Problem) (messages : String) : Prop :=
  ∃ lines : List String,
    messages = Text.encodable (Text.unstyled ("\n".intercalate lines ++ "\n")) ++ "Aborted!\n" ∧
    "❌ " ++ problem.code ++ ": " ++ problem.message ∈ lines ∧
    (problem.context ≠ [] → "📍 Context: " ++ (Json.object problem.context).literal ∈ lines) ∧
    ∀ suggestion ∈ problem.suggestions, "   • " ++ suggestion ∈ lines

theorem reports_problemLines (problem : Problem) (correlation : Option String) :
    Reports problem
      (Text.encodable (Text.unstyled (Text.lines (problemLines problem correlation) ++ "\n")) ++
        "Aborted!\n") := by
  rw [Text.lines_eq_intercalate]
  refine ⟨_, rfl, by simp [problemLines], fun hcontext => ?_, fun suggestion hsuggestion => ?_⟩
  · simp [problemLines, hcontext]
  · have hsome : problem.suggestions ≠ [] := List.ne_nil_of_mem hsuggestion
    simp [problemLines, hsome, hsuggestion]

/-- A failure shows in the messages only. -/
theorem ofFailure_error (correlation : Option String) (failure : Failure) :
    let run : Run Unit := Run.ofFailure correlation (.error failure)
    run.output = "" ∧ run.files = [] ∧ exitCode run.outcome = 1 ∧
      ∀ problem, failure = .problem problem → Reports problem run.messages := by
  cases failure with
  | fault fault => exact ⟨rfl, rfl, rfl, nofun⟩
  | problem problem =>
    refine ⟨rfl, rfl, rfl, ?_⟩
    rintro _ ⟨⟩
    have haborted : Text.encodable (Text.unstyled ("Aborted!" ++ "\n")) = "Aborted!\n" := by
      have hplain : Text.unstyled ("Aborted!" ++ "\n") = "Aborted!\n" := by decide
      rw [hplain, Text.encodable_eq_self (Text.isEncodable_of_plain (by decide))]
    have htrace : (Run.ofFailure correlation (.error (.problem problem)) : Run Unit).trace =
        [.err (Text.encodable
            (Text.unstyled (Text.lines (problemLines problem correlation) ++ "\n"))),
          .err (Text.encodable (Text.unstyled ("Aborted!" ++ "\n")))] := rfl
    rw [Run.messages, htrace, haborted]
    simpa [Effect.message] using reports_problemLines problem correlation

/-- A command line for classes is carried out in full or leaves no trace. If there are no classes
    for the snapshot, nothing goes to the output or to a file, and the messages report the problem
    that was met, if it is one. Otherwise the classes go to the file that is named for them, as
    they are, or else to the output, without the sequences that would style them on a terminal; so
    the output has them as they are if and only if there is no such sequence in them. What is said
    about the file and the diagnostics goes to the messages, and a report of these lists them all
    in their order. Only where the classes hold half of a character there is a trace of a failure:
    the file that is named for them is left empty. -/
theorem run_generate (hready : given.IsReady folder metadata) {words : List String}
    (hwords : Invocation.ofWords words = .ok (.perform .generate given)) (correlation : String) :
    let run := run folder correlation words
    (∀ failure, given.source folder metadata = .error failure →
      run.output = "" ∧ run.files = [] ∧ exitCode run.outcome = 1 ∧
        ∀ problem, failure = .problem problem → Reports problem run.messages) ∧
    ∀ source, given.source folder metadata = .ok source →
      (Text.isEncodable source = true → exitCode run.outcome = 0 ∧
        ∃ resolution, given.resolution folder metadata = .ok resolution ∧
          (∀ format, reportOf (given.last? .diagnostics) = some format →
            resolution.diagnostics ≠ [] → Report.Lists resolution.diagnostics format
              (Report.write format resolution.diagnostics)) ∧
          match given.target? with
          | some path =>
            run.output = "" ∧ run.files = [(Snapshot.normalPath path, source)] ∧
              run.messages = notice path resolution ++
                remarks (reportOf (given.last? .diagnostics)) resolution.diagnostics
          | none =>
            run.output = Text.unstyled source ∧ (run.output = source ↔ ¬ Text.HasStyle source) ∧
              run.files = [] ∧
              run.messages =
                remarks (reportOf (given.last? .diagnostics)) resolution.diagnostics) ∧
      (Text.isEncodable source = false → exitCode run.outcome = 1 ∧
        run.output = "" ∧ run.messages = "" ∧
        run.files = given.target?.toList.map fun path => (Snapshot.normalPath path, "")) := by
  intro run
  have hrun : run = generate folder correlation metadata given.generation :=
    hready.run hwords correlation
  rw [hrun]
  constructor
  · intro failure hfailure
    rw [generate_of_error correlation hfailure]
    exact ofFailure_error (given.shown correlation) failure
  · intro source hsource
    obtain ⟨snapshot, resolution, hsnapshot, hresolution, hrender⟩ := source_eq_ok hsource
    have hresolved : given.resolution folder metadata = .ok resolution := by
      rw [Given.resolution, hsnapshot, ok_bind, hresolution]
    have hlists (format : Report.Format) (hsome : resolution.diagnostics ≠ []) :=
      Report.lists_write hsome format
    constructor
    · intro hencodable
      have hshows := generate_of_ok correlation hsnapshot hresolution hrender hencodable
      cases htarget : given.target? with
      | some path =>
        rw [htarget] at hshows
        exact ⟨by rw [hshows.outcome_eq, exitCode], resolution, hresolved,
          fun format _ => hlists format, hshows.output_eq, hshows.files_eq, hshows.messages_eq⟩
      | none =>
        rw [htarget] at hshows
        refine ⟨by rw [hshows.outcome_eq, exitCode], resolution, hresolved,
          fun format _ => hlists format, hshows.output_eq, ?_, hshows.files_eq, hshows.messages_eq⟩
        rw [hshows.output_eq, Text.unstyled_eq_self_iff]
    · intro hencodable
      have hshows := generate_of_notEncodable correlation hsnapshot hresolution hrender hencodable
      exact ⟨by rw [hshows.outcome_eq, exitCode], hshows.output_eq, hshows.messages_eq,
        hshows.files_eq⟩

end

theorem normalLineEnds_eq_self {cs : List Char} (h : '\r' ∉ cs) :
    Snapshot.normalLineEnds cs = cs := by
  fun_induction Snapshot.normalLineEnds cs with
  | case1 => rfl
  | case2 rest => simp at h
  | case3 rest => simp at h
  | case4 c rest _ _ ih => rw [ih fun hmem => h (List.mem_cons_of_mem _ hmem)]

/-- A text that is written to a file is read back as what it says. -/
theorem ofFile_toUTF8 [Text.HalfBlock] {path text : String} {value : Json}
    (hpath : Snapshot.isPath path = true) (hreturns : '\r' ∉ text.toList)
    (hparse : Json.load text = .ok value) :
    Snapshot.ofFile path (.ok text.toUTF8) = Snapshot.ofJson (.text path) value := by
  have hdecode : String.fromUTF8? text.toUTF8 = some text := dif_pos text.isValidUTF8
  simp only [Snapshot.ofFile, hpath, hdecode, normalLineEnds_eq_self hreturns,
    String.ofList_toList, hparse]
  rfl

/-- A snapshot of an enum with one value, and a column of it. -/
def moodJson (value : String) : Json :=
  .object [("types", .array [.object
      [("id", .int 1), ("name", .text "mood"), ("enums", .array [.text value])]]),
    ("columns", .array [.object
      [("table_id", .int 1), ("name", .text "mood"), ("format", .text "mood")]])]

def moodSnapshot (value : String) : Snapshot :=
  { schemas := []
    tables := []
    views := []
    columns := [{ tableId := .int 1, name := .text "mood", format := .text "mood" }]
    types := [{ id := .int 1, name := .text "mood", enums := [.text value] }] }

def moodEnum (value : String) : Dart.EnumClass :=
  { className := Dart.className "mood", values := [value], translations := none }

def moodSource (value : String) : String :=
  Text.joined "\n\n" [Dart.prelude, (moodEnum value).source] ++ "\n"

/-- A text that is set in bold. -/
def bold : String :=
  "\x1b[1mcalm"

/-- A text that is half of a character. -/
def half : String :=
  String.singleton (Text.ofHalf 0xdc00)

/-- The text of the snapshot, by how its value is spelled. -/
def moodText (spelling : String) : String :=
  "\x7b\"types\": [\x7b\"id\": 1, \"name\": \"mood\", \"enums\": [\"" ++ spelling ++ "\"]\x7d], " ++
    "\"columns\": [\x7b\"table_id\": 1, \"name\": \"mood\", \"format\": \"mood\"\x7d]\x7d"

/-- A folder with two snapshots, and with a text that breaks off. -/
def desk : Folder := fun path =>
  if path = "bold.json" then .ok (moodText "\\u001b[1mcalm").toUTF8
  else if path = "half.json" then .ok (moodText "\\udc00").toUTF8
  else if path = "broken.json" then .ok "[".toUTF8
  else .error .missing

/-- Whether what was read is the snapshot with this value. -/
def isMoodJson (value : String) : Except Json.ReadError Json → Bool
  | .ok (.object [(types, .array [.object
        [(typeId, .int id), (typeName, .text name), (enums, .array [.text member])]]),
      (columns, .array [.object
        [(tableId, .int table), (columnName, .text column), (format, .text type)]])]) =>
    decide ([types, typeId, typeName, enums, columns, tableId, columnName, format] =
        ["types", "id", "name", "enums", "columns", "table_id", "name", "format"] ∧
      [name, member, column, type] = ["mood", value, "mood", "mood"] ∧ [id, table] = [1, 1])
  | _ => false

theorem eq_of_isMoodJson {value : String} {read : Except Json.ReadError Json}
    (h : isMoodJson value read = true) : read = .ok (moodJson value) := by
  unfold isMoodJson at h
  split at h
  · obtain ⟨hnames, htexts, hids⟩ := of_decide_eq_true h
    cases hnames
    cases htexts
    cases hids
    rfl
  · cases h

theorem load_bold : Json.load (moodText "\\u001b[1mcalm") = .ok (moodJson bold) :=
  eq_of_isMoodJson (by decide +kernel)

theorem load_half : Json.load (moodText "\\udc00") = .ok (moodJson half) :=
  eq_of_isMoodJson (by decide +kernel)

theorem loaded_mood {path text value : String} (hpath : Snapshot.normalPath path = path)
    (hvalid : Snapshot.isPath path = true) (hdesk : desk path = .ok text.toUTF8)
    (hreturns : '\r' ∉ text.toList) (hload : Json.load text = .ok (moodJson value)) :
    loaded desk path = .ok (moodSnapshot value) := by
  rw [loaded, hpath, hdesk, ofFile_toUTF8 hvalid hreturns hload]
  rfl

theorem isEncodable_moodSource (value : String) :
    Text.isEncodable (moodSource value) = Text.isEncodable value := by
  have henum : Text.isEncodable (moodEnum value).source = Text.isEncodable value := by
    rw [Dart.EnumClass.isEncodable_source (Dart.isEncodable_className "mood")]
    simp [moodEnum, Dart.EnumClass.translationSection]
  have hseparator : Text.isEncodable "\n\n" = true ∧ Text.isEncodable "\n" = true := by decide
  simp [moodSource, Text.isEncodable_append, Text.isEncodable_joined hseparator.1, hseparator,
    Dart.isEncodable_prelude, henum]

theorem generate_moodSnapshot {value : String} (hresolve : ∃ resolution,
    ({} : Generator).resolve (moodSnapshot value) = .ok resolution ∧
      resolution.declarables = [.enum (.text "mood") ([value].map .text) none]) :
    ({} : Generator).generate (moodSnapshot value) = .ok (moodSource value) := by
  obtain ⟨resolution, hresolve, hdeclarables⟩ := hresolve
  obtain ⟨groups, hgroups⟩ : ∃ groups,
      Snapshot.columnsByTable (moodSnapshot value).columns = .ok groups := ⟨_, rfl⟩
  have hrender : ({} : Generator).render (moodSnapshot value) resolution =
      .ok (moodSource value) := by
    have hselect : ({} : Generator).select (moodSnapshot value) [] = .ok [] := rfl
    simp only [Generator.render, moodSnapshot] at hselect hgroups ⊢
    rw [hselect, ok_bind, ok_bind, hgroups, ok_bind, hdeclarables, Dart.source, List.mapM_cons,
      Dart.declaration_enum]
    rfl
  rw [Generator.generate, hresolve, ok_bind, hrender, ofFault_ok]

/-- A value is written into the classes with its style. -/
theorem hasStyle_boldSource : Text.HasStyle (moodSource bold) := by
  have hliteral : Text.HasStyle (Dart.literal bold) :=
    ⟨['\''], "[1mcalm'".toList, by decide, ['1'], 'm', "calm'".toList, by decide, by decide,
      by decide⟩
  have hcase : Text.HasStyle (moodEnum bold).toJsonCases := hliteral.append _ ";"
  have henum : Text.HasStyle (moodEnum bold).source :=
    hcase.joined (by simp [Dart.EnumClass.sourceLines])
  have hjoined : Text.HasStyle
      (Text.joined "\n\n" [Dart.prelude, (moodEnum bold).source]) :=
    henum.joined (by simp)
  simpa [moodSource] using hjoined.append "" "\n"

theorem isReady_desk {settings : List (Switch × String)} {metadata : String}
    (hmetadata : metadata ∈ ["bold.json", "half.json", "broken.json"])
    (hsettings : settings = [] ∨ settings = [(.output, "models.dart")]) :
    Given.IsReady { settings, operands := [metadata] } desk metadata := by
  have hmodels : Snapshot.isPath "models.dart" = true ∧
      desk "models.dart" = .error .missing := by decide
  simp only [List.mem_cons, List.not_mem_nil, or_false] at hmetadata
  constructor
  · rfl
  · rcases hmetadata with rfl | rfl | rfl <;> decide
  · rcases hmetadata with rfl | rfl | rfl <;> exact ⟨_, rfl⟩
  · rcases hsettings with rfl | rfl
    · rintro path ⟨⟩
    · intro path hpath
      obtain rfl : "models.dart" = path := Option.some.inj hpath
      exact hmodels.1
  · rcases hsettings with rfl | rfl
    · rintro path ⟨⟩
    · intro path hpath
      obtain rfl : "models.dart" = path := Option.some.inj hpath
      rw [hmodels.2]
      exact ⟨nofun, nofun⟩
  · rcases hsettings with rfl | rfl <;> rintro name ⟨⟩

/-- The output loses the bold, a file does not. Half of a character leaves the file empty, and
    nothing comes of a text that breaks off. -/
theorem run_generate_bold :
    let source := moodSource bold
    ({} : Generator).generate (moodSnapshot bold) = .ok source ∧
    (run desk "7" ["generate", "--", "bold.json"]).output ≠ source ∧
    (run desk "7" ["generate", "--output", "models.dart", "--", "bold.json"]).files =
      [("models.dart", source)] ∧
    (run desk "7" ["generate", "--output", "models.dart", "--", "half.json"]).files =
      [("models.dart", "")] ∧
    (run desk "7" ["generate", "--output", "models.dart", "--", "broken.json"]).output = "" ∧
    (run desk "7" ["generate", "--output", "models.dart", "--", "broken.json"]).files = [] := by
  intro source
  have hwords (metadata : String) : Invocation.ofWords ["generate", "--", metadata] =
      .ok (.perform .generate { settings := [], operands := [metadata] }) :=
    ofWords_settingWords [] metadata (by simp)
  have hwordsFile (metadata : String) : Invocation.ofWords
      ["generate", "--output", "models.dart", "--", metadata] =
      .ok (.perform .generate { settings := [(.output, "models.dart")], operands := [metadata] }) :=
    ofWords_settingWords [(.output, "models.dart")] metadata (by decide)
  have hgiven {settings : List (Switch × String)} {metadata value : String}
      (hsettings : settings = [] ∨ settings = [(.output, "models.dart")])
      (hloaded : loaded desk metadata = .ok (moodSnapshot value))
      (hgenerate : ({} : Generator).generate (moodSnapshot value) = .ok (moodSource value)) :
      Given.source { settings, operands := [metadata] } desk metadata =
        .ok (moodSource value) := by
    rw [Given.source, hloaded, ok_bind]
    rcases hsettings with rfl | rfl <;> exact hgenerate
  have hbold : loaded desk "bold.json" = .ok (moodSnapshot bold) :=
    loaded_mood (by decide) (by decide) rfl (by decide +kernel) load_bold
  have hsource : ({} : Generator).generate (moodSnapshot bold) = .ok source :=
    generate_moodSnapshot ⟨_, rfl, rfl⟩
  have hencodable : Text.isEncodable source = true := by
    rw [isEncodable_moodSource]
    decide
  have hhalf : loaded desk "half.json" = .ok (moodSnapshot half) :=
    loaded_mood (by decide) (by decide) rfl (by decide +kernel) load_half
  have hhalfSource : ({} : Generator).generate (moodSnapshot half) = .ok (moodSource half) :=
    generate_moodSnapshot ⟨_, rfl, rfl⟩
  have hstuck : Text.isEncodable (moodSource half) = false := by
    rw [isEncodable_moodSource]
    decide
  refine ⟨hsource, ?_, ?_, ?_, ?_⟩
  · obtain ⟨-, _, -, -, -, hsame, -⟩ := ((run_generate (isReady_desk (by simp) (.inl rfl))
      (hwords "bold.json") "7").2 source (hgiven (.inl rfl) hbold hsource)).1 hencodable
    exact fun heq => hsame.mp heq hasStyle_boldSource
  · obtain ⟨-, _, -, -, -, hfiles, -⟩ := ((run_generate (isReady_desk (by simp) (.inr rfl))
      (hwordsFile "bold.json") "7").2 source (hgiven (.inr rfl) hbold hsource)).1 hencodable
    exact hfiles
  · obtain ⟨-, -, -, hfiles⟩ := ((run_generate (isReady_desk (by simp) (.inr rfl))
      (hwordsFile "half.json") "7").2 _ (hgiven (.inr rfl) hhalf hhalfSource)).2 hstuck
    exact hfiles
  · obtain ⟨failure, hfailure⟩ : ∃ failure, Given.source
        { settings := [(.output, "models.dart")], operands := ["broken.json"] } desk
          "broken.json" = .error failure := ⟨_, rfl⟩
    obtain ⟨houtput, hfiles, -⟩ := (run_generate (isReady_desk (by simp) (.inr rfl))
      (hwordsFile "broken.json") "7").1 failure hfailure
    exact ⟨houtput, hfiles⟩

end DartModels.CommandLine
