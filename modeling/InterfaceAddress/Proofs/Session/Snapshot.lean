import InterfaceAddress.Proofs.Session.Telling
import Mathlib

/-! # A snapshot accounts for every record

A snapshot holds every interface of its source with the descriptors of those of
its records that can be converted, in order. About each record it tells the log
exactly one notice of the platform, which says whether the record was kept, and a
notice with the number of interfaces ends what is told (`Snapshot.take_accounts`).
-/

namespace InterfaceAddress.Snapshot

variable {session : Session} {config : Config}

/-! ### What becomes of a record -/

/-- Every record behind the name of its interface. -/
def recordsOf (source : InterfaceSource) : List (String × Members) :=
  source.flatMap fun (interface, records) =>
    (records.getD []).map fun record => (interface, record)

/-- What converting a record gives. -/
def conversion (config : Config) (choice : Option Bool) (record : Members) :
    Except Rejection Descriptor :=
  (Attempt.convert (.object record) .empty choice).outcome config

/-- The descriptors of the records that can be converted, under the names of the interfaces. -/
def conversions (config : Config) (choice : Option Bool) (source : InterfaceSource) :
    List (String × List Descriptor) :=
  source.map fun (interface, records) =>
    (interface, (records.getD []).filterMap fun record => (conversion config choice record).toOption)

/-- The notice of the platform about a record: that it was kept, or why it was skipped. -/
def report (config : Config) (choice : Option Bool) (interface : String) (record : Members) :
    Log.Notice :=
  match conversion config choice record with
  | .ok descriptor => .kept interface descriptor
  | .error rejection => .skipped interface record rejection

/-- What is told about a record: the rejection of its draft, if it comes to one, and then what
became of the record. -/
def recordNotices (config : Config) (choice : Option Bool) (interface : String)
    (record : Members) : List Log.Notice :=
  (Attempt.convert (.object record) .empty choice).notices config ++
    [report config choice interface record]

/-- What a snapshot tells the log. -/
def notices (config : Config) (choice : Option Bool) (source : InterfaceSource) :
    List Log.Notice :=
  (recordsOf source).flatMap (fun (interface, record) =>
    recordNotices config choice interface record) ++ [.taken source.length]

section Dated

variable (cached : session.config = some config) (dated : Log.IsDatable session.wallTime)
include cached dated

theorem ofRecord_tells (choice : Option Bool) (interface : String) (record : Members) :
    (ofRecord interface choice record).Tells session config (conversion config choice record).toOption
      (recordNotices config choice interface record) := by
  have converts := Descriptor.tryConvert_tells cached dated (.object record) .empty choice
  rw [recordNotices, report, conversion]
  apply converts.bind
  cases (Attempt.convert (.object record) .empty choice).outcome config with
  | ok descriptor =>
    exact (Action.Tells.post cached dated (.kept interface descriptor)).bind_silent (.pure _)
  | error rejection =>
    exact (Action.Tells.post cached dated (.skipped interface record rejection)).bind_silent
      (.pure _)

theorem ofRecords_tells (choice : Option Bool) (interface : String) (records : List Members) :
    (ofRecords interface choice records).Tells session config
      (records.filterMap fun record => (conversion config choice record).toOption)
      (records.flatMap (recordNotices config choice interface)) := by
  induction records with
  | nil => exact .pure _
  | cons record rest ih =>
    rw [ofRecords, List.flatMap_cons]
    apply (ofRecord_tells cached dated choice interface record).bind
    apply ih.bind_silent
    rw [List.filterMap_cons]
    cases (conversion config choice record).toOption <;> exact .pure _

theorem ofInterfaces_tells (choice : Option Bool) (source : InterfaceSource) :
    (ofInterfaces choice source).Tells session config (conversions config choice source)
      ((recordsOf source).flatMap fun (interface, record) =>
        recordNotices config choice interface record) := by
  induction source with
  | nil => exact .pure _
  | cons first rest ih =>
    obtain ⟨interface, records⟩ := first
    rw [ofInterfaces, recordsOf, List.flatMap_cons, List.flatMap_append, List.flatMap_map]
    apply (ofRecords_tells cached dated choice interface _).bind
    exact ih.bind_silent (.pure _)

/-- With a configuration and a date, a snapshot gives every interface and tells its notices. -/
theorem take_tells (choice : Option Bool) (source : InterfaceSource) :
    (take source choice).Tells session config (conversions config choice source)
      (notices config choice source) := by
  have counted : (conversions config choice source).length = source.length := List.length_map ..
  rw [notices, ← counted]
  apply (ofInterfaces_tells cached dated choice source).bind
  exact (Action.Tells.post cached dated (.taken _)).bind_silent (.pure _)

end Dated

/-! ### Notices of the platform -/

variable {choice : Option Bool} {interface : String} {record : Members}

theorem level_report (config : Config) (choice : Option Bool) (interface : String)
    (record : Members) : (report config choice interface record).level = .trace ∨
      (report config choice interface record).level = .warn := by
  unfold report
  cases conversion config choice record with
  | ok descriptor => exact .inl rfl
  | error rejection => exact .inr rfl

/-- The platform tells one notice about a record. -/
theorem filter_recordNotices : (recordNotices config choice interface record).filter
    (fun notice => notice.component = "platform") = [report config choice interface record] := by
  have elsewhere : ((Attempt.convert (.object record) .empty choice).notices config).filter
      (fun notice => notice.component = "platform") = [] := by
    simp only [Attempt.notices, Draft.notices]
    split
    · split <;> rfl
    · rfl
  have platform : (report config choice interface record).component = "platform" := by
    unfold report
    cases conversion config choice record <;> rfl
  rw [recordNotices, List.filter_append, elsewhere, List.nil_append]
  simp only [List.filter_cons, platform, decide_true, if_true, List.filter_nil]

theorem filter_notices (source : InterfaceSource) : (notices config choice source).filter
    (fun notice => notice.component = "platform") =
      (recordsOf source).map (fun (interface, record) => report config choice interface record) ++
        [.taken source.length] := by
  rw [notices, List.filter_append, List.filter_flatMap, List.map_eq_flatMap]
  simp only [filter_recordNotices]
  rfl

/-- Every record was kept or skipped. -/
theorem length_reports (records : List (String × Members)) (count : Nat) :
    let told := records.map (fun (interface, record) => report config choice interface record) ++
      [.taken count]
    (told.filter fun notice => notice.level = .trace).length +
      (told.filter fun notice => notice.level = .warn).length = records.length := by
  induction records with
  | nil => rfl
  | cons first rest ih =>
    rw [List.length_cons, ← ih]
    rcases level_report config choice first.1 first.2 with kept | skipped
    · simp [kept, Nat.add_right_comm]
    · simp [skipped, Nat.add_assoc]

/-- **A snapshot accounts for every record.** With a configuration that is kept and a wall clock
that shows a date, a snapshot holds every interface in order with the descriptors of its records
that can be converted, in order. The lines are those of its notices that are let through. Where
every level is let through, all are written, and the notices of the platform are one for each
record, in order, that it was kept or that it was skipped and why, and a last one with the number of
interfaces. -/
theorem take_accounts (cached : session.config = some config)
    (dated : Log.IsDatable session.wallTime) (source : InterfaceSource) (choice : Option Bool) :
    let told := notices config choice source
    let platform := told.filter fun notice => notice.component = "platform"
    (∀ record, (Descriptor.tryConvert (.object record) .empty choice session).result =
      .ok (conversion config choice record)) ∧
    (take source choice session).result = .ok (source.map fun (interface, records) => (interface,
      (records.getD []).filterMap fun record => (conversion config choice record).toOption)) ∧
    (take source choice session).lines = Log.Notice.lines told session config.logging ∧
    (config.logging.enabled = true → config.logging.level = .trace →
      (take source choice session).lines = told.map (·.line session config.logging) ∧
      platform = (recordsOf source).map (fun (interface, record) =>
        report config choice interface record) ++ [.taken source.length] ∧
      (platform.filter fun notice => notice.level = .trace).length +
        (platform.filter fun notice => notice.level = .warn).length = (recordsOf source).length) := by
  intro told platform
  have tells := take_tells cached dated choice source
  refine ⟨fun record => ?_, tells.result_eq, tells.lines_eq, fun enabled level => ?_⟩
  · exact (Descriptor.tryConvert_tells cached dated (.object record) .empty choice).result_eq
  · have loud (notice : Log.Notice) : config.logging.admits notice.level = true := by
      rw [LoggingConfig.admits, enabled, level]
      cases notice.level <;> rfl
    have platforms : platform = _ := filter_notices source
    refine ⟨?_, platforms, ?_⟩
    · rw [tells.lines_eq, Log.Notice.lines, List.filter_eq_self.mpr fun notice _ => loud notice]
    · rw [platforms]
      exact length_reports (recordsOf source) source.length

/-- A record that is kept, one that is skipped and an interface without a list. -/
theorem take_accounts_mixed :
    let config : Config := ⟨.test, ⟨.trace, false, true⟩, .standard, .standard⟩
    let session : Session := { Session.initial with config := some config }
    let loopback : Members := [("address", .text "::1"), ("cidr", .text "::1/128")]
    let blank : Members := [("address", .null)]
    let source : InterfaceSource := [("lo", some [loopback, blank]), ("tun", none)]
    ∃ descriptor,
      (take source none session).result = .ok [("lo", [descriptor]), ("tun", [])] ∧
      (take source none session).lines =
        [Log.Notice.kept "lo" descriptor, .skipped "lo" blank .recordWithoutAddress, .taken 2].map
          (·.line session config.logging) := by
  intro config session loopback blank source
  have accepted : (conversion config none loopback).isOk = true := by decide +kernel
  obtain ⟨descriptor, kept⟩ : ∃ descriptor, conversion config none loopback = .ok descriptor := by
    cases given : conversion config none loopback with
    | ok descriptor => exact ⟨descriptor, rfl⟩
    | error rejection =>
      rw [given] at accepted
      cases accepted
  have skipped : conversion config none blank = .error .recordWithoutAddress := rfl
  have first : recordNotices config none "lo" loopback = [.kept "lo" descriptor] := by
    rw [recordNotices, report, kept, Attempt.notices_of_ok kept]
    rfl
  have second : recordNotices config none "lo" blank =
      [.skipped "lo" blank .recordWithoutAddress] := rfl
  have listed : recordsOf source = [("lo", loopback), ("lo", blank)] := rfl
  have told : notices config none source =
      [.kept "lo" descriptor, .skipped "lo" blank .recordWithoutAddress, .taken 2] := by
    simp only [notices, listed, List.flatMap_cons, List.flatMap_nil, first, second]
    rfl
  obtain ⟨-, taken, -, written⟩ := take_accounts (rfl : session.config = some config)
    (by decide) source none
  refine ⟨descriptor, ?_, ?_⟩
  · rw [taken]
    simp only [source, List.map_cons, List.map_nil, Option.getD_some, Option.getD_none,
      List.filterMap_cons, List.filterMap_nil, kept, skipped]
    rfl
  · rw [(written rfl rfl).1, told]

end InterfaceAddress.Snapshot
