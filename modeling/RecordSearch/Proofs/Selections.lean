import RecordSearch.Proofs.Reports

/-!
# Selections, their limits and their counts

A run that selects records reports how many there are, how many of them match, and those that do. A
limit cuts the listing and warns if it leaves any out, and counting drops the listing; neither
changes anything else (`execute_selects`). So it is in JSON if every record that is listed has few
levels and finite numbers only. Otherwise it is up to the serializer: it may write null for the
other numbers, or it refuses the report, and the run fails by accident, with the warnings that it
has come to.
-/

namespace RecordSearch

/-- What a run reports of the records that a query selects. -/
structure Selection where
  query : String
  /-- The number of all records. -/
  total : Nat
  /-- The number of those that match. -/
  matched : Nat
  /-- The records that are listed, unless they are only counted. -/
  listed : Option (List (List (String × Json)))
  warnings : List String

namespace Selection

/-- What a query selects of some records. -/
def all (q : Query) (records : List (List (String × Json))) : Selection where
  query := q.text
  total := records.length
  matched := (records.filter fun r => Group.matches (Record.ofMembers r) q).length
  listed := some (records.filter fun r => Group.matches (Record.ofMembers r) q)
  warnings := if q.isEmpty then ["Empty query matches every record."] else []

/-- The selection with at most `n` records listed, and a warning if that leaves any out. -/
def limited (p : Selection) (n : Nat) : Selection :=
  { p with
    listed := p.listed.map (List.take n)
    warnings := p.warnings ++
      if n < p.matched then
        ["Showing " ++ toString n ++ " of " ++ toString p.matched ++ " matching records."]
      else [] }

/-- The selection without a listing. -/
def counted (p : Selection) : Selection := { p with listed := none }

/-- The selection as a limit and counting make it. -/
def cut (p : Selection) (limit : Option Int) (countOnly : Bool) : Selection :=
  if countOnly then p.counted
  else
    match limit with
    | none => p
    | some n => p.limited n.toNat

/-- The records that are listed have few enough levels for a report of `depth` levels, in which they
stand in a list in the data, and their numbers are finite. -/
def Fits (p : Selection) (depth : Nat) : Prop :=
  ∀ records ∈ p.listed, ∀ r ∈ records,
    (Json.object r).levels + 3 ≤ depth ∧ (Json.object r).allFinite = true

/-- The members of the data of a selection. -/
def members (p : Selection) : List (String × Json) :=
  [("query", .text p.query), ("total", .integer p.total), ("matched", .integer p.matched)] ++
    match p.listed with
    | none => []
    | some records => [("records", .list (records.map .object))]

/-- The JSON value that reports a selection, with the time that the run has taken. -/
def envelope (p : Selection) (elapsed : Nat) : Json :=
  .object [("ok", .bool true), ("command", .text "match"), ("data", .object p.members),
    ("warnings", .list (p.warnings.map .text)),
    ("meta", .object [("durationMs", .integer elapsed), ("query", .text p.query)]),
    ("error", .null)]

theorem fits_counted (p : Selection) (depth : Nat) : p.counted.Fits depth := by
  simp [Fits, counted]

/-- A selection that can be listed can be cut. -/
theorem Fits.cut {p : Selection} {depth : Nat} (h : p.Fits depth) (limit : Option Int)
    (countOnly : Bool) : (p.cut limit countOnly).Fits depth := by
  unfold Selection.cut
  split
  · exact fits_counted p depth
  · split
    · exact h
    · rename_i n
      intro records hrecords r hr
      obtain ⟨all, hall, rfl⟩ := Option.map_eq_some_iff.1 hrecords
      exact h all hall r (List.mem_of_mem_take hr)

/-- The report of a selection has few levels if the records that are listed have. -/
theorem levels_envelope_le {p : Selection} {depth : Nat} (h : p.Fits depth)
    (hdepth : reportLevels ≤ depth) (elapsed : Nat) : (p.envelope elapsed).levels ≤ depth := by
  have hwarnings : Json.elementLevels (p.warnings.map Json.text) ≤ 1 :=
    Json.elementLevels_le_iff.2 (List.forall_mem_map.2 fun _ _ => Nat.le_refl 1)
  have hmembers : Json.memberLevels p.members ≤ depth - 2 := by
    have hfew : 4 ≤ depth := Nat.le_trans (by decide) hdepth
    unfold members
    cases hlisted : p.listed with
    | none =>
      simp only [Json.levels, Json.memberLevels, List.append_nil]
      omega
    | some records =>
      have hrecords : Json.elementLevels (records.map Json.object) ≤ depth - 3 :=
        Json.elementLevels_le_iff.2 (List.forall_mem_map.2 fun r hr =>
          Nat.le_sub_of_add_le (h records hlisted r hr).1)
      simp only [Json.levels, Json.memberLevels, List.cons_append, List.nil_append]
      omega
  have hfew : 4 ≤ depth := Nat.le_trans (by decide) hdepth
  simp only [envelope, Json.levels, Json.memberLevels]
  omega

/-- The numbers of a report are finite if those of the records that are listed are. -/
theorem finiteOnly_envelope {p : Selection} {depth : Nat} (h : p.Fits depth) (elapsed : Nat) :
    (p.envelope elapsed).finiteOnly = p.envelope elapsed := by
  have hmembers : Json.finiteMembers p.members = p.members := by
    unfold members
    cases hlisted : p.listed with
    | none => rfl
    | some records =>
      have hrecords : Json.allFiniteElements (records.map Json.object) = true := by
        rw [Json.allFiniteElements_eq, List.all_map, List.all_eq_true]
        exact fun r hr => (h records hlisted r hr).2
      simp only [List.cons_append, List.nil_append, Json.finiteMembers, Json.finiteOnly,
        Json.finiteElements_eq_self hrecords]
  have hwarnings := Json.finiteOnly_texts p.warnings
  rw [Json.finiteOnly] at hwarnings
  simp only [envelope, Json.finiteOnly, Json.finiteMembers, hmembers, hwarnings]

end Selection

/-! ### The attempt -/

/-- A source can be read, its text has no half of a surrogate pair without the other half, and these
are its records. -/
def Loads (s : Surroundings) (settings : Settings) (query source : String)
    (records : List (List (String × Json))) : Prop :=
  ∃ text, sourceText s settings query source = .ok text ∧
    Json.hasLoneHalf text.toList = false ∧ readRecords text = .ok records

variable {s : Surroundings} {settings : Settings} {query source : String}
  {records : List (List (String × Json))} {limit : Option Int} {depth : Nat}

/-- The warning that comes with a limited listing. -/
theorem selectionData_limit (text : String) (total : Nat) (matched : List Json) (n : Int) :
    selectionData text total matched (some n) false =
      (.object [("query", .text text), ("total", .integer total),
          ("matched", .integer matched.length), ("records", .list (matched.take n.toNat))],
        if n.toNat < matched.length then
          ["Showing " ++ toString n.toNat ++ " of " ++ toString matched.length ++
            " matching records."]
        else []) := by
  have hlength : (matched.take n.toNat).length = min n.toNat matched.length := List.length_take
  by_cases h : n.toNat < matched.length
  · have hshown : (matched.take n.toNat).length = n.toNat := by omega
    simp only [selectionData, hshown, if_pos h]
    rfl
  · have hshown : ¬(matched.take n.toNat).length < matched.length := by omega
    simp only [selectionData, if_neg hshown, if_neg h]
    rfl

/-- The data are those of the selection as the options cut it, and its warnings are the earlier ones
and those that come with the data. -/
theorem selectionData_eq (q : Query) (records : List (List (String × Json)))
    (limit : Option Int) (countOnly : Bool) :
    ∃ later, selectionData q.text records.length
        ((Group.select q Record.ofMembers records).map Json.object) limit countOnly =
          (.object ((Selection.all q records).cut limit countOnly).members, later) ∧
      ((Selection.all q records).cut limit countOnly).warnings =
        (Selection.all q records).warnings ++ later := by
  have hmatched : ((Group.select q Record.ofMembers records).map Json.object).length =
      (Selection.all q records).matched := List.length_map _
  cases countOnly with
  | true =>
    refine ⟨[], ?_, (List.append_nil _).symm⟩
    simp only [selectionData, hmatched, if_true]
    rfl
  | false =>
    cases limit with
    | none =>
      refine ⟨[], ?_, (List.append_nil _).symm⟩
      simp only [selectionData, hmatched, Nat.lt_irrefl]
      rfl
    | some n =>
      refine ⟨_, ?_, rfl⟩
      rw [selectionData_limit, hmatched, ← List.map_take]
      rfl

theorem Selection.query_cut (p : Selection) (limit : Option Int) (countOnly : Bool) :
    (p.cut limit countOnly).query = p.query := by
  unfold Selection.cut
  split
  · rfl
  · split <;> rfl

/-- A request whose source can be read comes to the selection as the options cut it. -/
theorem attempted_select (hload : Loads s settings query source records)
    (hlimit : ∀ n ∈ limit, 0 ≤ n) (countOnly : Bool) :
    (attempted s settings (.select query source limit countOnly)).outcome =
        .ok (.object ((Selection.all (parse query) records).cut limit countOnly).members,
          some ((Selection.all (parse query) records).cut limit countOnly).query) ∧
      (attempted s settings (.select query source limit countOnly)).warnings =
        ((Selection.all (parse query) records).cut limit countOnly).warnings := by
  obtain ⟨text, hsource, -, hrecords⟩ := hload
  rw [sourceText] at hsource
  obtain ⟨later, hdata, hwarnings⟩ := selectionData_eq (parse query) records limit countOnly
  have hnegative : ¬limit.any (· < 0) = true := by
    cases limit with
    | none => simp
    | some n => simpa using hlimit n rfl
  rw [hwarnings, Selection.query_cut, attempted, perform, performSelect, if_neg hnegative]
  simp only [hsource, hrecords, hdata]
  exact ⟨rfl, rfl⟩

/-! ### The run -/

/-- A run in JSON reports a selection. If the records that are listed fit, it writes the envelope.
If they do not, it writes what the serializer makes of the envelope, with null for numbers that are
not finite; or it fails by accident, as the serializer refuses the envelope. -/
structure ReportsSelection (s : Surroundings) (depth : Nat) (f : Finished) (request : Request)
    (p : Selection) : Prop where
  fits : p.Fits depth → f.exitCode = 0 ∧ f.stdout = (p.envelope s.elapsed).compact ++ "\n"
  dumped : ∀ payload, s.serializer.dump (p.envelope s.elapsed) = .ok payload →
    f.exitCode = 0 ∧ f.stdout = payload.compact ++ "\n" ∧
      payload = (p.envelope s.elapsed).finiteOnly
  refused : ∀ fault, s.serializer.dump (p.envelope s.elapsed) = .error fault →
    f.exitCode = 1 ∧ ∃ line, f.stdout = line ++ "\n" ∧
      IsReport line request 1 (some "internal_error") p.warnings

/-- The result of a request whose source can be read, if the serializer dumps it. -/
theorem toJson_select (hload : Loads s settings query source records)
    (hlimit : ∀ n ∈ limit, 0 ≤ n) (countOnly : Bool) (verbosity elapsed : Nat) :
    ((attempted s settings (.select query source limit countOnly)).result "match"
        verbosity).toJson elapsed =
      ((Selection.all (parse query) records).cut limit countOnly).envelope elapsed := by
  obtain ⟨hok, hwarnings⟩ := attempted_select hload hlimit countOnly
  rw [result_of_ok hok, hwarnings]
  rfl

theorem reportsSelection_execute (hs : s.Lawful depth) (hformat : settings.format = .json)
    (hload : Loads s settings query source records) (hapart : KeepsNotesApart s settings)
    (hlimit : ∀ n ∈ limit, 0 ≤ n) (countOnly : Bool) :
    ReportsSelection s depth (execute s settings (.select query source limit countOnly))
      (.select query source limit countOnly)
      ((Selection.all (parse query) records).cut limit countOnly) := by
  obtain ⟨hok, hwarnings⟩ := attempted_select hload hlimit countOnly
  have hjson := toJson_select hload hlimit countOnly settings.verbosity s.elapsed
  generalize (Selection.all (parse query) records).cut limit countOnly = p at hok hwarnings hjson ⊢
  have hdumped : ∀ payload, s.serializer.dump (p.envelope s.elapsed) = .ok payload →
      (execute s settings (.select query source limit countOnly)).exitCode = 0 ∧
        (execute s settings (.select query source limit countOnly)).stdout =
          payload.compact ++ "\n" ∧ payload = (p.envelope s.elapsed).finiteOnly := by
    rw [← hjson]
    exact fun payload hpayload => execute_of_dump hs hformat hapart hok hpayload
  refine ⟨fun hfits => ?_, hdumped, fun fault hfault => ?_⟩
  · obtain ⟨payload, hpayload⟩ :=
      hs.serializer.dumps _ (Selection.levels_envelope_le hfits hs.reports s.elapsed)
    obtain ⟨hcode, hstdout, hpayload⟩ := hdumped payload hpayload
    rw [hpayload, Selection.finiteOnly_envelope hfits] at hstdout
    exact ⟨hcode, hstdout⟩
  · rw [← hjson] at hfault
    rw [← hwarnings]
    exact execute_of_refused hs hformat hapart hok hfault

/-- **Options of a selection only cut its listing.** Of a source that can be read, every run in JSON
reports the same selection, as its limit and counting cut it. If the records that the run without
options lists fit, so do those of every other run, and so does a count of whatever records. -/
theorem execute_selects (hs : s.Lawful depth) (hformat : settings.format = .json)
    (hload : Loads s settings query source records) (hapart : KeepsNotesApart s settings)
    (hlimit : ∀ n ∈ limit, 0 ≤ n) (countOnly : Bool) :
    ((Selection.all (parse query) records).Fits depth ∨ countOnly = true →
        ((Selection.all (parse query) records).cut limit countOnly).Fits depth) ∧
      ReportsSelection s depth (execute s settings (.select query source limit countOnly))
        (.select query source limit countOnly)
        ((Selection.all (parse query) records).cut limit countOnly) := by
  refine ⟨?_, reportsSelection_execute hs hformat hload hapart hlimit countOnly⟩
  rintro (hfits | rfl)
  · exact hfits.cut limit countOnly
  · exact Selection.fits_counted _ depth

theorem loads_nested (n : Nat) (h : settings.notesFile = none) :
    Loads (aroundNested n) settings "" "-" [[("a", nestedList n)]] := by
  have htext : sourceText (aroundNested n) settings "" "-" = .ok (nestedRecord n) := by
    rw [sourceText, openNotes_none _ h]
    exact readSource_nested n
  exact ⟨nestedRecord n, htext,
    (isOrderly_aroundNested n h).paired _ _ _ _ _ rfl htext, readRecords_nested n⟩

/-- Three hundred nested lists can be counted, but not listed. -/
theorem execute_selects_nested :
    (execute (aroundNested 300) { format := .json } (.select "" "-" none false)).exitCode = 1 ∧
      (execute (aroundNested 300) { format := .json } (.select "" "-" (some 7) true)).exitCode =
        0 := by
  have hload := @loads_nested { format := .json } 300 rfl
  have hapart := (@isOrderly_aroundNested 300 { format := .json } rfl).apart
  obtain ⟨-, hreport⟩ := @execute_selects _ _ _ _ _ none _ (lawful_aroundNested 300) rfl hload
    hapart (by simp) false
  obtain ⟨hfits, hreport'⟩ := @execute_selects _ _ _ _ _ (some 7) _ (lawful_aroundNested 300) rfl
    hload hapart (by simp) true
  obtain ⟨_, _, fault, hok, hrefused⟩ := (isRefused_nested_iff 300 { format := .json } rfl).2
    (by decide)
  rw [selectAll, Request.command, toJson_select hload (by simp)] at hrefused
  exact ⟨(hreport.refused fault hrefused).1, (hreport'.fits (hfits (.inr rfl))).1⟩

end RecordSearch
