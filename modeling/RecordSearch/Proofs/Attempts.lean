import RecordSearch.Proofs.Displayed

/-!
# Attempts and how they end

What a request comes to does not depend on how its result is shown: `attempted` looks at nothing of
the settings but the file of notes. The data are those of one of three commands, and a fault is one
that the program foresees or an accident (`perform_ok_cases`, `perform_error`).

Whether the attempt is as good as its result depends on the format, and on the tools of the run, of
which `Surroundings.Lawful` is relied on. For people every result can be drawn, so that the attempt
stands; in JSON it fails after all if the serializer refuses it, and only then (`settled_cases`). It
can refuse nothing but records that are shown (`request_of_isRefused`), and a failure can be written
in either format (`exists_write_of_problem`).
-/

namespace RecordSearch

/-- What is relied on of the tools of a run: the terminal shows plain texts, and the serializer
dumps what has at most `depth` levels, among it every report that describes a query. -/
structure Surroundings.Lawful (s : Surroundings) (depth : Nat) : Prop where
  terminal : s.terminal.ShowsPlain
  serializer : s.serializer.Lawful depth
  reports : reportLevels ≤ depth

/-- What a request comes to, before its result is written. -/
def attempted (s : Surroundings) (settings : Settings) (request : Request) : Attempt :=
  perform (openNotes s settings).1 ((openNotes s settings).2.1.map NotesFile.place) request

/-- An attempt has gone well, but the serializer refuses to dump its report. -/
def Attempt.IsRefused (a : Attempt) (s : Surroundings) (command : String) : Prop :=
  ∃ data query fault, a.outcome = .ok (data, query) ∧
    s.serializer.dump ((a.result command 0).toJson s.elapsed) = .error fault

/-- The exit code of a run whose result can be written. -/
def Attempt.exitCode (a : Attempt) : Int :=
  match a.outcome with
  | .ok _ => 0
  | .error fault => (fault.report 0).exitCode

variable {s around : Surroundings} {settings settings' : Settings} {request : Request} {a : Attempt}
  {place : Option Place} {data : Json} {query : Option String} {fault : Fault} {depth : Nat}

/-- The data of a request that has gone well. -/
theorem perform_ok_cases (h : (perform s place request).outcome = .ok (data, query)) :
    (∃ text, request = .parse text ∧ data = parseData text) ∨
      (∃ text source limit countOnly total, ∃ matched : List (List (String × Json)),
        request = .select text source limit countOnly ∧
        data = (selectionData (parse text).text total (matched.map .object) limit countOnly).1) ∨
      (request = .version ∧ data = .object [("version", .text programVersion), ("syntax", signs),
        ("maxDepth", .integer maxDepth), ("pythonVersion", .text s.platform)]) := by
  cases request with
  | parse text =>
    obtain ⟨rfl, -⟩ := Prod.mk.inj (Except.ok.inj h)
    exact .inl ⟨text, rfl, rfl⟩
  | select text source limit countOnly =>
    -- three ways to fail in turn: the limit, the source, the records in it
    simp only [perform, performSelect] at h
    split at h
    · exact absurd h (by simp)
    · split at h
      · exact absurd h (by simp)
      · split at h
        · exact absurd h (by simp)
        · obtain ⟨rfl, -⟩ := Prod.mk.inj (Except.ok.inj h)
          exact .inr (.inl ⟨text, source, limit, countOnly, _, _, rfl, rfl⟩)
  | version =>
    obtain ⟨rfl, -⟩ := Prod.mk.inj (Except.ok.inj h)
    exact .inr (.inr ⟨rfl, rfl⟩)

/-- The data of a request are an object. -/
theorem exists_object_of_perform (h : (perform s place request).outcome = .ok (data, query)) :
    ∃ members, data = .object members := by
  obtain ⟨text, -, rfl⟩ | ⟨text, -, limit, countOnly, total, matched, -, rfl⟩ | ⟨-, rfl⟩ :=
    perform_ok_cases h
  · exact ⟨_, rfl⟩
  · cases countOnly <;> exact ⟨_, rfl⟩
  · exact ⟨_, rfl⟩

theorem readSource_error {source : String} (h : readSource s source = .error fault)
    (problem : Problem) : fault ≠ .reported problem := by
  have hfile : ∀ bytes, fileText bytes = .error fault → fault ≠ .reported problem := by
    intro bytes hbytes
    unfold fileText at hbytes
    split at hbytes
    · obtain rfl := Except.error.inj hbytes
      simp
    · exact absurd hbytes (by simp)
  unfold readSource at h
  split at h
  · exact hfile _ h
  · split at h
    · obtain rfl := Except.error.inj h
      simp
    · dsimp only at h
      split at h
      · exact hfile _ h
      · obtain rfl := Except.error.inj h
        simp
      · obtain rfl := Except.error.inj h
        simp

/-- A request fails with a fault that is foreseen, or by accident. -/
theorem perform_error (h : (perform s place request).outcome = .error fault) (problem : Problem) :
    fault ≠ .reported problem := by
  cases request with
  | parse text => exact absurd h (by simp [perform, performParse])
  | select text source limit countOnly =>
    simp only [perform, performSelect] at h
    split at h
    · obtain rfl := Except.error.inj h
      simp
    · split at h
      · rename_i hread
        obtain rfl := Except.error.inj h
        exact readSource_error hread problem
      · split at h
        · obtain rfl := Except.error.inj h
          simp
        · exact absurd h (by simp)
  | version => exact absurd h (by simp [perform, performVersion])

/-- The kind of a problem and its exit code go together. -/
def Problem.IsCoded (p : Problem) : Prop :=
  (p.kind = "internal_error" ∧ p.exitCode = 1) ∨
    (p.kind ∈ ["usage_error", "io_error", "validation_error"] ∧ p.exitCode = 2)

theorem isCoded_report (h : ∀ problem, fault ≠ .reported problem) (verbosity : Nat) :
    (fault.report verbosity).IsCoded := by
  cases fault with
  | negativeLimit => exact .inr ⟨by simp [Fault.report, Fault.problem], rfl⟩
  | noSuchFile path => exact .inr ⟨by simp [Fault.report, Fault.problem], rfl⟩
  | unreadableFile path reason => exact .inr ⟨by simp [Fault.report, Fault.problem], rfl⟩
  | badRecords error =>
    cases error <;> exact .inr ⟨by simp [Fault.report, Fault.problem, RecordError.problem], rfl⟩
  | reported problem => exact absurd rfl (h problem)
  | accident accident => exact .inl ⟨rfl, rfl⟩

/-- How much is told of a fault does not change its kind and its exit code. -/
theorem report_congr (fault : Fault) (verbosity verbosity' : Nat) :
    (fault.report verbosity).kind = (fault.report verbosity').kind ∧
      (fault.report verbosity).exitCode = (fault.report verbosity').exitCode := by
  cases fault <;> exact ⟨rfl, rfl⟩

/-! ### Results that can be written -/

/-- The result of an attempt that has gone well. -/
theorem result_of_ok (h : a.outcome = .ok (data, query)) (command : String) (verbosity : Nat) :
    a.result command verbosity =
      { ok := true, command, data, warnings := a.warnings, query } := by
  simp only [Attempt.result, h]

/-- What is told of faults makes no difference to an attempt that has gone well. -/
theorem result_congr_of_ok (h : a.outcome = .ok (data, query)) (command : String)
    (verbosity verbosity' : Nat) : a.result command verbosity = a.result command verbosity' := by
  rw [result_of_ok h, result_of_ok h]

/-- The result of an attempt that has failed. -/
theorem result_of_error (h : a.outcome = .error fault) (command : String) (verbosity : Nat) :
    a.result command verbosity =
      { ok := false, command, warnings := a.warnings,
        problem := some (fault.report verbosity) } := by
  simp only [Attempt.result, h]

/-- In JSON a result is written as the serializer dumps it. -/
theorem write_of_dump {r : Result} {payload : Json} (h : settings.format = .json)
    (hdump : s.serializer.dump (r.toJson s.elapsed) = .ok payload) :
    r.write s settings = .ok { stdout := payload.compact ++ "\n" } := by
  simp only [Result.write, h, hdump]

/-- For people a result can be written if it can be drawn. -/
theorem exists_write_of_toLines {r : Result} {drawn : Written} (h : settings.format = .table)
    (hlines : r.toLines (settings.display s.terminal) = .ok drawn) :
    ∃ w, r.write s settings = .ok w := by
  simp only [Result.write, h, hlines]
  exact ⟨_, rfl⟩

theorem bracket_notMem_command (request : Request) : '[' ∉ request.command.toList := by
  have hall : ∀ name ∈ ["parse", "match", "version"], '[' ∉ name.toList := by decide
  exact hall _ (by cases request <;> simp [Request.command])

theorem toLines_ok {r : Result} {display : Display} (ht : display.terminal.ShowsPlain)
    (hcommand : '[' ∉ r.command.toList)
    (hdata : r.ok = true → ∃ text, r.dataText display = .ok text) :
    ∃ w, r.toLines display = .ok w := by
  unfold Result.toLines
  split
  · rename_i hok
    obtain ⟨text, htext⟩ := hdata hok
    rw [htext]
    exact ⟨_, rfl⟩
  · obtain ⟨text, htext⟩ := Result.exists_problemText hcommand ht
    rw [htext]
    exact ⟨_, rfl⟩

/-- Whatever a request comes to can be drawn. -/
theorem exists_toLines {display : Display} (ht : display.terminal.ShowsPlain) (s : Surroundings)
    (place : Option Place) (request : Request) (verbosity : Nat) :
    ∃ w, ((perform s place request).result request.command verbosity).toLines display = .ok w := by
  have hcommand := bracket_notMem_command request
  cases h : (perform s place request).outcome with
  | ok outcome =>
    obtain ⟨data, query⟩ := outcome
    rw [result_of_ok h]
    refine toLines_ok ht hcommand fun _ => ?_
    obtain ⟨text, -, rfl⟩ | ⟨text, -, limit, countOnly, total, matched, -, rfl⟩ | ⟨-, rfl⟩ :=
      perform_ok_cases h
    · exact Result.exists_dataText_parse rfl ht
    · exact Result.exists_dataText_selection rfl ht
    · exact Result.exists_dataText_pairs rfl rfl rfl display
  | error fault =>
    rw [result_of_error h]
    exact toLines_ok ht hcommand fun hok => absurd hok (by simp)

/-- For people, whatever a request comes to can be written. -/
theorem exists_write_of_table (h : settings.format = .table) (ht : s.terminal.ShowsPlain)
    (around : Surroundings) (place : Option Place) (request : Request) :
    ∃ w, ((perform around place request).result request.command settings.verbosity).write s
      settings = .ok w := by
  obtain ⟨w, hw⟩ := @exists_toLines (settings.display s.terminal) ht around place request
    settings.verbosity
  exact exists_write_of_toLines h hw

/-! ### Levels of results -/

/-- A result has one level more than its data and its problem. -/
theorem Result.levels_toJson_le {r : Result} {n : Nat} (hn : 2 ≤ n) (hdata : r.data.levels ≤ n)
    (hproblem : ∀ p ∈ r.problem, p.toJson.levels ≤ n) (elapsed : Nat) :
    (r.toJson elapsed).levels ≤ n + 1 := by
  have hwarnings : Json.elementLevels (r.warnings.map Json.text) ≤ 1 :=
    Json.elementLevels_le_iff.2 (List.forall_mem_map.2 fun _ _ => Nat.le_refl 1)
  have hquery : (Json.ofText? r.query).levels = 1 := by
    cases r.query <;> rfl
  have herror : ((r.problem.map Problem.toJson).getD .null).levels ≤ n := by
    cases h : r.problem with
    | none => exact Nat.le_of_succ_le hn
    | some p => exact hproblem p h
  simp only [Result.toJson, Json.levels, Json.memberLevels, hquery]
  omega

theorem Result.levels_lt_toJson (r : Result) (elapsed : Nat) :
    r.data.levels < (r.toJson elapsed).levels := by
  simp only [Result.toJson, Json.levels, Json.memberLevels]
  omega

/-- What is reported of a fault has few levels: the details are an object of texts and numbers. -/
theorem levels_report_le (h : ∀ problem, fault ≠ .reported problem) (verbosity : Nat) :
    (fault.report verbosity).toJson.levels ≤ 3 := by
  have hproblem : ∀ p : Problem, (∀ members ∈ p.details, Json.memberLevels members ≤ 1) →
      p.toJson.levels ≤ 3 := by
    intro p hdetails
    have hhint : (Json.ofText? p.hint).levels = 1 := by
      cases p.hint <;> rfl
    have hlevels : ((p.details.map Json.object).getD .null).levels ≤ 2 := by
      cases hp : p.details with
      | none => exact Nat.le_succ 1
      | some members => exact Nat.succ_le_succ (hdetails members hp)
    simp only [Problem.toJson, Json.levels, Json.memberLevels, hhint]
    omega
  refine hproblem _ ?_
  cases fault with
  | badRecords error =>
    intro members hmembers
    cases error <;>
      · obtain rfl := Option.some.inj hmembers
        simp [Json.memberLevels, Json.levels]
  | reported problem => exact absurd rfl (h problem)
  | accident accident =>
    intro members hmembers
    simp only [Fault.report] at hmembers
    split at hmembers
    · obtain rfl := Option.some.inj hmembers
      simp [Json.memberLevels, Json.levels]
    · exact absurd hmembers (by simp)
  | _ =>
    intro members hmembers
    exact absurd hmembers (by simp [Fault.report, Fault.problem])

/-- A failure can be written in either format. -/
theorem exists_write_of_problem (hs : s.Lawful depth) {r : Result} {p : Problem}
    (hfailed : r.ok = false) (hdata : r.data = .null) (hproblem : r.problem = some p)
    (hlevels : p.toJson.levels ≤ 3) (hcommand : '[' ∉ r.command.toList) (settings : Settings) :
    ∃ w, r.write s settings = .ok w := by
  cases hformat : settings.format with
  | json =>
    have hreport : (r.toJson s.elapsed).levels ≤ 3 + 1 := by
      refine Result.levels_toJson_le (by decide) ?_ ?_ _
      · rw [hdata]
        decide
      · rw [hproblem]
        exact fun p' hp' => Option.some.inj hp' ▸ hlevels
    have hdepth : 3 + 1 ≤ depth := Nat.le_trans (by decide) hs.reports
    obtain ⟨payload, hpayload⟩ := hs.serializer.dumps _ (Nat.le_trans hreport hdepth)
    exact ⟨_, write_of_dump hformat hpayload⟩
  | table =>
    obtain ⟨w, hw⟩ := @toLines_ok r (settings.display s.terminal) hs.terminal hcommand
      (fun hok => absurd (hfailed.symm.trans hok) Bool.false_ne_true)
    exact exists_write_of_toLines hformat hw

theorem exitCode_result (a : Attempt) (command : String) (verbosity : Nat) :
    (a.result command verbosity).exitCode = a.exitCode := by
  cases h : a.outcome with
  | ok outcome =>
    rw [result_of_ok h, Attempt.exitCode, h]
    rfl
  | error fault =>
    rw [result_of_error h, Attempt.exitCode, h]
    exact (report_congr fault verbosity 0).2

/-- An attempt stands if it has failed already, or if its result can be written. -/
theorem settled_of_error (h : a.outcome = .error fault) (s : Surroundings) (settings : Settings)
    (command : String) : a.settled s settings command = a := by
  simp only [Attempt.settled, h]

theorem settled_of_write {command : String} {w : Written}
    (h : (a.result command settings.verbosity).write s settings = .ok w) :
    a.settled s settings command = a := by
  cases hok : a.outcome <;> simp only [Attempt.settled, hok, h]

/-- An attempt whose report is refused fails after all. -/
theorem settled_of_refused {command : String} {toolFault : ToolFault}
    (hformat : settings.format = .json) (hok : a.outcome = .ok (data, query))
    (hrefused : s.serializer.dump ((a.result command 0).toJson s.elapsed) = .error toolFault) :
    a.settled s settings command =
      { a with outcome := .error (.accident (.unserializable toolFault)) } := by
  rw [result_of_ok hok] at hrefused
  simp only [Attempt.settled, Result.write, hformat, result_of_ok hok, hrefused, hok]

/-- The attempt that is reported: it stands, or it is in JSON and refused. -/
theorem settled_cases (hs : s.Lawful depth) (request : Request) (settings : Settings) :
    ((attempted s settings request).settled s settings request.command =
          attempted s settings request ∧
        ¬(settings.format = .json ∧
          (attempted s settings request).IsRefused s request.command)) ∨
      (∃ toolFault, (attempted s settings request).settled s settings request.command =
          { attempted s settings request with
            outcome := .error (.accident (.unserializable toolFault)) } ∧
        settings.format = .json ∧
          (attempted s settings request).IsRefused s request.command) := by
  generalize hattempt : attempted s settings request = a
  cases hok : a.outcome with
  | error fault =>
    refine .inl ⟨settled_of_error hok s settings _, ?_⟩
    rintro ⟨-, data, query, toolFault, hdata, -⟩
    exact absurd (hok.symm.trans hdata) (by simp)
  | ok outcome =>
    obtain ⟨data, query⟩ := outcome
    cases hformat : settings.format with
    | table =>
      obtain ⟨w, hw⟩ := exists_write_of_table hformat hs.terminal (openNotes s settings).1
        ((openNotes s settings).2.1.map NotesFile.place) request
      rw [← hattempt]
      exact .inl ⟨settled_of_write hw, fun h => absurd h.1 (by simp)⟩
    | json =>
      cases hdump : s.serializer.dump ((a.result request.command 0).toJson s.elapsed) with
      | error toolFault =>
        exact .inr ⟨toolFault, settled_of_refused hformat hok hdump, rfl,
          data, query, toolFault, hok, hdump⟩
      | ok payload =>
        refine .inl ⟨?_, ?_⟩
        · rw [result_congr_of_ok hok _ 0 settings.verbosity] at hdump
          exact settled_of_write (write_of_dump hformat hdump)
        · rintro ⟨-, data', query', toolFault, -, hrefused⟩
          exact absurd (hdump.symm.trans hrefused) (by simp)

end RecordSearch
