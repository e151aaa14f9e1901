import RecordSearch.Proofs.NestedRecords
import RecordSearch.Proofs.PlainTexts

/-!
# Reports

A run ends with one report, and its exit code and what it writes agree (`execute_reports`): the code
goes with the kind of the problem, a line of JSON says the same, and a run that is shown to people
writes nothing to the standard output if it has failed.

The code does not depend on how the result is shown, with one exception. What the serializer refuses
is drawn for people, but makes a run fail that writes JSON.
-/

namespace RecordSearch

/-! ### Lines of JSON -/

namespace Json

theorem reread_texts (texts : List String) :
    (Json.list (texts.map .text)).reread = .list (texts.map .text) := by
  rw [reread, rereadElements_eq, List.map_map]
  rfl

theorem reread_object {members : List (String × Json)} (h : (members.map (·.1)).Nodup) :
    (Json.object members).reread = .object (members.map fun m => (m.1, m.2.reread)) := by
  rw [reread, rereadMembers_eq, ofMembers_of_nodup]
  rw [List.map_map]
  exact h

theorem finiteOnly_texts (texts : List String) :
    (Json.list (texts.map .text)).finiteOnly = .list (texts.map .text) := by
  refine finiteOnly_eq_self ?_
  rw [allFinite]
  induction texts with
  | nil => rfl
  | cons s texts ih => rw [List.map_cons, allFiniteElements, ih]; rfl

theorem finiteOnly_ofText? (s : Option String) : (Json.ofText? s).finiteOnly = .ofText? s := by
  cases s <;> rfl

theorem reread_ofText? (s : Option String) : (Json.ofText? s).reread = .ofText? s := by
  cases s <;> rfl

end Json

/-- What is read of a problem that has been dumped and written in JSON. -/
theorem Problem.reread_toJson (p : Problem) : p.toJson.finiteOnly.reread =
    .object [("type", .text p.kind), ("message", .text p.message), ("hint", .ofText? p.hint),
      ("details", ((p.details.map Json.object).getD .null).finiteOnly.reread)] := by
  have hdumped : p.toJson.finiteOnly = .object [("type", .text p.kind),
      ("message", .text p.message), ("hint", .ofText? p.hint),
      ("details", ((p.details.map Json.object).getD .null).finiteOnly)] := by
    simp only [toJson, Json.finiteOnly, Json.finiteMembers, Json.finiteOnly_ofText?]
  rw [hdumped, Json.reread_object (by simp)]
  simp only [List.map_cons, List.map_nil, Json.reread_ofText?]
  rfl

/-- What is read of a result that has been dumped and written in JSON. -/
theorem Result.reread_toJson (r : Result) (elapsed : Nat) : (r.toJson elapsed).finiteOnly.reread =
    .object [("ok", .bool r.ok), ("command", .text r.command),
      ("data", r.data.finiteOnly.reread), ("warnings", .list (r.warnings.map .text)),
      ("meta", .object [("durationMs", .integer elapsed), ("query", .ofText? r.query)]),
      ("error", ((r.problem.map Problem.toJson).getD .null).finiteOnly.reread)] := by
  have hdumped : (r.toJson elapsed).finiteOnly = .object [("ok", .bool r.ok),
      ("command", .text r.command), ("data", r.data.finiteOnly),
      ("warnings", .list (r.warnings.map .text)),
      ("meta", .object [("durationMs", .integer elapsed), ("query", .ofText? r.query)]),
      ("error", ((r.problem.map Problem.toJson).getD .null).finiteOnly)] := by
    have htexts := Json.finiteOnly_texts r.warnings
    rw [Json.finiteOnly] at htexts
    simp only [toJson, Json.finiteOnly, Json.finiteMembers, Json.finiteOnly_ofText?, htexts]
  have hmeta : (Json.object [("durationMs", .integer elapsed),
      ("query", .ofText? r.query)]).reread =
        .object [("durationMs", .integer elapsed), ("query", .ofText? r.query)] := by
    rw [Json.reread_object (by simp)]
    simp only [List.map_cons, List.map_nil, Json.reread_ofText?]
    rfl
  rw [hdumped, Json.reread_object (by simp)]
  simp only [List.map_cons, List.map_nil, hmeta, Json.reread_texts]
  rfl

/-! ### Warnings -/

/-- The one result of a run. -/
def resultOf (s : Surroundings) (settings : Settings) (request : Request) : Result :=
  ((attempted s settings request).settled s settings request.command).result request.command
    settings.verbosity

/-- The text of a source of records. What has been noted before stands in the file of notes, which
may be the source itself. -/
def sourceText (s : Surroundings) (settings : Settings) (query source : String) :
    Except Fault String :=
  readSource ((openNotes s settings).1.withNotes ((openNotes s settings).2.1.map NotesFile.place)
    (parseNotes query)) source

/-- The notes of a run do not go to the standard output. -/
def KeepsNotesApart (s : Surroundings) (settings : Settings) : Prop :=
  ∀ file ∈ (openNotes s settings).2.1, file.isOutput = false

/-- What is asked of a run: its notes do not go to the standard output, and the text of its records
has no half of a surrogate pair without the other half. -/
structure IsOrderly (s : Surroundings) (settings : Settings) (request : Request) : Prop where
  apart : KeepsNotesApart s settings
  paired : ∀ query source limit countOnly text, request = .select query source limit countOnly →
    sourceText s settings query source = .ok text → Json.hasLoneHalf text.toList = false

/-- A line of JSON that reports a run with an exit code, the kind of its problem, if it has one, and
its warnings. -/
structure IsReport (line : String) (request : Request) (exitCode : Int) (kind? : Option String)
    (warnings : List String) : Prop where
  oneLine : '\n' ∉ line.toList ∧ '\r' ∉ line.toList
  read : ∃ ok data about error, Json.read line.toList = .ok (.object [("ok", .bool ok),
      ("command", .text request.command), ("data", data), ("warnings", .list (warnings.map .text)),
      ("meta", about), ("error", error)]) ∧
    (ok = true ↔ exitCode = 0) ∧ (error = .null ↔ ok = true) ∧ (data = .null ↔ ok = false) ∧
    error.get? "type" = kind?.map .text

/-- What a run of a request leaves behind agrees with its result. -/
structure Agrees (settings : Settings) (request : Request) (r : Result) (f : Finished) :
    Prop where
  code : f.exitCode = 0 ∨ f.exitCode = 1 ∨ f.exitCode = 2
  code_one : f.exitCode = 1 ↔ r.problem.map Problem.kind = some "internal_error"
  code_two : f.exitCode = 2 ↔ ∃ kind ∈ ["usage_error", "io_error", "validation_error"],
    r.problem.map Problem.kind = some kind
  json : settings.format = .json → ∃ line, f.stdout = line ++ "\n" ∧
    IsReport line request f.exitCode (r.problem.map Problem.kind) r.warnings
  table : settings.format = .table → f.exitCode ≠ 0 → f.stdout = ""

variable {s : Surroundings} {settings settings' : Settings} {request : Request} {depth : Nat}
  {w : Written} {data : Json} {query : Option String}

/-- Opening a file of notes changes nothing but the disk. -/
theorem openNotes_tools (s : Surroundings) (settings : Settings) :
    (openNotes s settings).1.serializer = s.serializer ∧
      (openNotes s settings).1.terminal = s.terminal ∧
      (openNotes s settings).1.elapsed = s.elapsed ∧ (openNotes s settings).1.time = s.time := by
  unfold openNotes
  split
  · exact ⟨rfl, rfl, rfl, rfl⟩
  · split <;> exact ⟨rfl, rfl, rfl, rfl⟩

theorem write_openNotes (s : Surroundings) (settings settings' : Settings) (r : Result) :
    r.write (openNotes s settings).1 settings' = r.write s settings' := by
  obtain ⟨hserializer, hterminal, helapsed, -⟩ := openNotes_tools s settings
  simp only [Result.write, hserializer, hterminal, helapsed]

theorem settled_openNotes (s : Surroundings) (settings : Settings) (a : Attempt)
    (command : String) :
    a.settled (openNotes s settings).1 settings command = a.settled s settings command := by
  simp only [Attempt.settled, write_openNotes]

/-- The exit code of a run and its output, if its result can be written. -/
theorem execute_of_write (h : (resultOf s settings request).write s settings = .ok w) :
    (execute s settings request).exitCode = (resultOf s settings request).exitCode ∧
      ∃ notes, (execute s settings request).stdout =
        outputNotes s (openNotes s settings).2.1 notes ++ w.stdout := by
  have hcode : (execute s settings request).exitCode =
      if ((resultOf s settings request).write s settings).isOk then
        (resultOf s settings request).exitCode else 1 := by
    rw [resultOf, ← settled_openNotes, ← write_openNotes s settings]
    rfl
  have hstdout : ∃ notes, (execute s settings request).stdout =
      outputNotes (openNotes s settings).1 (openNotes s settings).2.1 notes ++
        (((resultOf s settings request).write s settings).toOption.getD {}).stdout := by
    rw [resultOf, ← settled_openNotes, ← write_openNotes s settings]
    exact ⟨_, rfl⟩
  rw [h] at hcode hstdout
  simp only [outputNotes, (openNotes_tools s settings).2.2.2] at hstdout
  exact ⟨hcode, hstdout⟩

/-- A run whose attempt can be written reports it. -/
theorem execute_of_attempted_write
    (h : ((attempted s settings request).result request.command settings.verbosity).write s
      settings = .ok w) :
    (execute s settings request).exitCode = (attempted s settings request).exitCode ∧
      ∃ notes, (execute s settings request).stdout =
        outputNotes s (openNotes s settings).2.1 notes ++ w.stdout := by
  have hresult : resultOf s settings request =
      (attempted s settings request).result request.command settings.verbosity := by
    rw [resultOf, settled_of_write h]
  obtain ⟨hcode, hstdout⟩ := execute_of_write (hresult ▸ h)
  rw [hresult, exitCode_result] at hcode
  exact ⟨hcode, hstdout⟩

/-- Notes that are kept apart do not come onto the standard output. -/
theorem outputNotes_of_apart (h : KeepsNotesApart s settings) (notes : List Note) :
    outputNotes s (openNotes s settings).2.1 notes = "" := by
  unfold outputNotes
  split
  · rename_i houtput
    obtain ⟨file, hfile, hoption⟩ := (Option.any_eq_true _ _).1 houtput
    exact absurd ((h file hfile).symm.trans hoption) Bool.false_ne_true
  · rfl

/-- The result of a run can be written: what cannot has failed after all, and failures can. -/
theorem exists_write_resultOf (hs : s.Lawful depth) (settings : Settings) (request : Request) :
    ∃ w, (resultOf s settings request).write s settings = .ok w := by
  have hcommand := bracket_notMem_command request
  obtain ⟨hstands, haccepted⟩ | ⟨fault, hfails, -⟩ := settled_cases hs request settings
  · rw [resultOf, hstands]
    cases houtcome : (attempted s settings request).outcome with
    | error fault =>
      rw [result_of_error houtcome]
      exact exists_write_of_problem hs rfl rfl rfl (levels_report_le (perform_error houtcome) _)
        hcommand settings
    | ok outcome =>
      cases hformat : settings.format with
      | table => exact exists_write_of_table hformat hs.terminal _ _ request
      | json =>
        cases hdump : s.serializer.dump
            (((attempted s settings request).result request.command 0).toJson s.elapsed) with
        | error fault => exact absurd ⟨hformat, _, _, fault, houtcome, hdump⟩ haccepted
        | ok payload =>
          rw [result_congr_of_ok houtcome _ 0 settings.verbosity] at hdump
          exact ⟨_, write_of_dump hformat hdump⟩
  · rw [resultOf, hfails]
    exact exists_write_of_problem hs rfl rfl rfl
      (@levels_report_le (.accident (.unserializable fault)) (fun _ => by simp) _) hcommand settings

/-- The result of a run has data that are an object, or a problem whose kind goes with its exit
code. -/
theorem resultOf_cases (hs : s.Lawful depth) (settings : Settings) (request : Request) :
    (∃ members query, resultOf s settings request =
        { ok := true, command := request.command, data := .object members,
          warnings := (attempted s settings request).warnings, query }) ∨
      (∃ problem, resultOf s settings request =
          { ok := false, command := request.command,
            warnings := (attempted s settings request).warnings, problem := some problem } ∧
        problem.IsCoded) := by
  -- the attempt stands, with its data or its fault, or it is refused after all
  obtain ⟨hstands, -⟩ | ⟨toolFault, hfails, -⟩ := settled_cases hs request settings
  · cases houtcome : (attempted s settings request).outcome with
    | ok outcome =>
      obtain ⟨data, query⟩ := outcome
      obtain ⟨members, rfl⟩ := exists_object_of_perform houtcome
      exact .inl ⟨members, query, by rw [resultOf, hstands, result_of_ok houtcome]⟩
    | error fault =>
      exact .inr ⟨_, by rw [resultOf, hstands, result_of_error houtcome],
        isCoded_report (perform_error houtcome) settings.verbosity⟩
  · refine .inr ⟨(Fault.accident (.unserializable toolFault)).report settings.verbosity, ?_,
      .inl ⟨rfl, rfl⟩⟩
    rw [resultOf, hfails]
    rfl

theorem stdout_of_json (hs : s.Lawful depth) (h : settings.format = .json) {r : Result}
    (hwrite : r.write s settings = .ok w) :
    w.stdout = (r.toJson s.elapsed).finiteOnly.compact ++ "\n" := by
  simp only [Result.write, h] at hwrite
  split at hwrite
  · exact absurd hwrite (by simp)
  · rename_i payload hpayload
    rw [← Except.ok.inj hwrite, hs.serializer.dump_eq hpayload]

/-- A failure is not told on the standard output. -/
theorem stdout_of_table (h : settings.format = .table) {r : Result} (hok : r.ok = false)
    (hwrite : r.write s settings = .ok w) : w.stdout = "" := by
  simp only [Result.write, h, Result.toLines, hok] at hwrite
  cases hproblem : r.problemText (settings.display s.terminal) with
  | error fault => simp [hproblem, Except.map] at hwrite
  | ok text =>
    simp only [hproblem, Except.map] at hwrite
    rw [← Except.ok.inj hwrite]

/-- The line of JSON that is written for a result. -/
theorem isReport_of_read {r : Result} (hcommand : r.command = request.command) {exitCode : Int}
    (hok : r.ok = true ↔ exitCode = 0) (hdata : r.data.finiteOnly.reread = .null ↔ r.ok = false)
    (hproblem : r.problem = none ↔ r.ok = true) (elapsed : Nat) :
    IsReport (r.toJson elapsed).finiteOnly.compact request exitCode (r.problem.map Problem.kind)
      r.warnings where
  oneLine := by
    have hvisible := Json.visible_compact (r.toJson elapsed).finiteOnly
    exact ⟨fun hmem => absurd (hvisible _ hmem) (by decide),
      fun hmem => absurd (hvisible _ hmem) (by decide)⟩
  read := by
    have hread := Json.read_compact (r.toJson elapsed).finiteOnly
    rw [Result.reread_toJson, hcommand] at hread
    have herror : (((r.problem.map Problem.toJson).getD .null).finiteOnly.reread = .null ↔
          r.ok = true) ∧
        ((r.problem.map Problem.toJson).getD .null).finiteOnly.reread.get? "type" =
          (r.problem.map Problem.kind).map .text := by
      rw [← hproblem]
      cases r.problem with
      | none => exact ⟨iff_of_true rfl rfl, rfl⟩
      | some p =>
        rw [Option.map_some, Option.getD_some, Problem.reread_toJson]
        exact ⟨iff_of_false nofun nofun, rfl⟩
    exact ⟨_, _, _, _, hread, hok, herror.1, hdata, herror.2⟩

theorem agrees_of_object {r : Result} {f : Finished} {members : List (String × Json)}
    {warnings : List String} {query : Option String} {elapsed : Nat}
    (hr : r = { ok := true, command := request.command, data := .object members, warnings, query })
    (hcode : f.exitCode = r.exitCode)
    (hline : settings.format = .json →
      f.stdout = (r.toJson elapsed).finiteOnly.compact ++ "\n") :
    Agrees settings request r f := by
  subst hr
  have hzero : f.exitCode = 0 := hcode
  exact {
    code := .inl hzero
    code_one := iff_of_false (by omega) nofun
    code_two := iff_of_false (by omega) nofun
    json := fun hformat => by
      refine ⟨_, hline hformat, isReport_of_read rfl (iff_of_true rfl hzero) ?_
        (iff_of_true rfl rfl) elapsed⟩
      exact iff_of_false nofun nofun
    table := fun _ hne => absurd hzero hne }

/-- The exit code tells the kind of a problem. -/
theorem Problem.IsCoded.exitCode_iff {p : Problem} (h : p.IsCoded) :
    (p.exitCode = 1 ↔ p.kind = "internal_error") ∧
      (p.exitCode = 2 ↔ p.kind ∈ ["usage_error", "io_error", "validation_error"]) := by
  obtain ⟨hkind, hone⟩ | ⟨hkind, htwo⟩ := h
  · rw [hone, hkind]
    decide
  · refine ⟨iff_of_false (by omega) ?_, iff_of_true htwo hkind⟩
    intro hinternal
    rw [hinternal] at hkind
    exact absurd hkind (by decide)

theorem agrees_of_problem {r : Result} {f : Finished} {p : Problem} {warnings : List String}
    {elapsed : Nat}
    (hr : r = { ok := false, command := request.command, warnings, problem := some p })
    (hkind : p.IsCoded) (hcode : f.exitCode = r.exitCode)
    (hline : settings.format = .json →
      f.stdout = (r.toJson elapsed).finiteOnly.compact ++ "\n")
    (hsilent : settings.format = .table → r.ok = false → f.stdout = "") :
    Agrees settings request r f := by
  subst hr
  have hcode : f.exitCode = p.exitCode := hcode
  have hfails : f.exitCode = 1 ∨ f.exitCode = 2 :=
    hkind.imp (fun h => hcode.trans h.2) fun h => hcode.trans h.2
  obtain ⟨hone, htwo⟩ := hkind.exitCode_iff
  exact {
    code := .inr hfails
    code_one := by
      rw [hcode, hone, Option.map_some, Option.some_inj]
    code_two := by
      rw [hcode, htwo]
      simp only [Option.map_some, Option.some_inj, exists_eq_right']
    json := fun hformat => by
      refine ⟨_, hline hformat, isReport_of_read rfl ?_ (iff_of_true rfl rfl) ?_ elapsed⟩
      · exact iff_of_false nofun (by omega)
      · exact iff_of_false nofun nofun
    table := fun hformat _ => hsilent hformat rfl }

theorem agrees_execute (hs : s.Lawful depth) (hapart : KeepsNotesApart s settings)
    (request : Request) :
    Agrees settings request (resultOf s settings request) (execute s settings request) := by
  obtain ⟨w, hw⟩ := exists_write_resultOf hs settings request
  obtain ⟨hcode, notes, hstdout⟩ := execute_of_write hw
  rw [outputNotes_of_apart hapart, String.empty_append] at hstdout
  have hline : settings.format = .json → (execute s settings request).stdout =
      ((resultOf s settings request).toJson s.elapsed).finiteOnly.compact ++ "\n" :=
    fun hformat => hstdout.trans (stdout_of_json hs hformat hw)
  have hsilent : settings.format = .table → (resultOf s settings request).ok = false →
      (execute s settings request).stdout = "" :=
    fun hformat hok => hstdout.trans (stdout_of_table hformat hok hw)
  obtain ⟨members, query, hr⟩ | ⟨problem, hr, hkind⟩ := resultOf_cases hs settings request
  · exact agrees_of_object hr hcode hline
  · exact agrees_of_problem hr hkind hcode hline hsilent

/-! ### Exit codes -/

/-- The exit code is that of the attempt, unless the attempt is refused in JSON. -/
theorem exitCode_execute (hs : s.Lawful depth) (settings : Settings) (request : Request) :
    (¬(settings.format = .json ∧
          (attempted s settings request).IsRefused s request.command) ∧
        (execute s settings request).exitCode = (attempted s settings request).exitCode) ∨
      ((settings.format = .json ∧ (attempted s settings request).IsRefused s request.command) ∧
        (execute s settings request).exitCode = 1) := by
  obtain ⟨w, hw⟩ := exists_write_resultOf hs settings request
  have hcode := (execute_of_write hw).1
  rw [resultOf, exitCode_result] at hcode
  obtain ⟨hstands, haccepted⟩ | ⟨fault, hfails, hrefused⟩ := settled_cases hs request settings
  · exact .inl ⟨haccepted, by rw [hcode, hstands]⟩
  · exact .inr ⟨hrefused, by rw [hcode, hfails]; rfl⟩

/-- What the serializer refuses makes only a run fail that writes JSON. -/
theorem exitCode_execute_of_isRefused (hs : s.Lawful depth)
    (h : (attempted s settings request).IsRefused s request.command) :
    (execute s settings request).exitCode = if settings.format = .json then 1 else 0 := by
  obtain ⟨hformat, hcode⟩ | ⟨⟨hformat, -⟩, hcode⟩ := exitCode_execute hs settings request
  · have hzero : (attempted s settings request).exitCode = 0 := by
      obtain ⟨data, query, -, hok, -⟩ := h
      rw [Attempt.exitCode, hok]
    rw [hcode, hzero, if_neg fun hjson => hformat ⟨hjson, h⟩]
  · rw [hcode, if_pos hformat]

/-- A run in JSON writes what the serializer makes of its report. -/
theorem execute_of_dump (hs : s.Lawful depth) (hformat : settings.format = .json)
    (hapart : KeepsNotesApart s settings)
    (hok : (attempted s settings request).outcome = .ok (data, query)) {payload : Json}
    (hdump : s.serializer.dump (((attempted s settings request).result request.command
      settings.verbosity).toJson s.elapsed) = .ok payload) :
    (execute s settings request).exitCode = 0 ∧
      (execute s settings request).stdout = payload.compact ++ "\n" ∧
      payload = (((attempted s settings request).result request.command
        settings.verbosity).toJson s.elapsed).finiteOnly := by
  obtain ⟨hcode, notes, hstdout⟩ := execute_of_attempted_write (write_of_dump hformat hdump)
  rw [Attempt.exitCode, hok] at hcode
  rw [outputNotes_of_apart hapart, String.empty_append] at hstdout
  exact ⟨hcode, hstdout, hs.serializer.dump_eq hdump⟩

/-- A run in JSON whose report the serializer refuses fails by accident, with the warnings that it
has come to. -/
theorem execute_of_refused (hs : s.Lawful depth) (hformat : settings.format = .json)
    (hapart : KeepsNotesApart s settings)
    (hok : (attempted s settings request).outcome = .ok (data, query)) {fault : ToolFault}
    (hdump : s.serializer.dump (((attempted s settings request).result request.command
      settings.verbosity).toJson s.elapsed) = .error fault) :
    (execute s settings request).exitCode = 1 ∧
      ∃ line, (execute s settings request).stdout = line ++ "\n" ∧
        IsReport line request 1 (some "internal_error")
          (attempted s settings request).warnings := by
  rw [result_congr_of_ok hok _ settings.verbosity 0] at hdump
  have hresult : resultOf s settings request = Attempt.result
      { attempted s settings request with outcome := .error (.accident (.unserializable fault)) }
      request.command settings.verbosity := by
    rw [resultOf, settled_of_refused hformat hok hdump]
  have hfails : (execute s settings request).exitCode = 1 := by
    rw [exitCode_execute_of_isRefused hs ⟨_, _, fault, hok, hdump⟩, if_pos hformat]
  obtain ⟨line, hline, hreport⟩ := (agrees_execute hs hapart request).json hformat
  rw [hfails, hresult] at hreport
  exact ⟨hfails, line, hline, hreport⟩

/-- The standard tools can be relied on. -/
theorem lawful_aroundNested (n : Nat) : (aroundNested n).Lawful Serializer.maxLevels where
  terminal := Terminal.standard_showsPlain
  serializer := Serializer.standard_lawful
  reports := by decide

theorem isOrderly_aroundNested (n : Nat) {settings : Settings} (h : settings.notesFile = none) :
    IsOrderly (aroundNested n) settings selectAll where
  apart := by
    rw [KeepsNotesApart, openNotes_none _ h]
    exact nofun
  paired := by
    rintro _ _ _ _ text ⟨rfl⟩ htext
    rw [sourceText, openNotes_none _ h] at htext
    obtain rfl := Except.ok.inj ((readSource_nested n).symm.trans htext)
    exact Json.hasLoneHalf_eq_false fun hmem => absurd (mem_nestedRecord hmem) (by decide)

end RecordSearch
