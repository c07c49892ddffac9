import Lcm.Daemon.UploadSettlement
import Lcm.Daemon.PassiveEventUploads

namespace Lcm.Daemon
open Text Hooks PassiveEvents

variable {Number : Type}

/-- How the remote calls of an upload fail for the whole batch. -/
inductive BatchFailure
  | none
  | readback (error : UploadError)
  | adopted
  | release (error : UploadError)
  | again (insertError : UploadError) (failed : Option UploadError)

/-- What the remote calls answered about one row. -/
structure OwnAnswers (Number : Type) where
  record : Option (PassiveEventRecord Number)
  answer : Option ReleaseOutcome
  again : Option (PassiveEventRecord Number)

section Dispositions

variable (config : UploadConfig Number)

def differs (record : Option (PassiveEventRecord Number)) (event : LocalEvent Number) : Bool :=
  record.any fun record => !sameEnvelope config event.2.envelope record

/-- The call that settles a row, from the failures of the whole batch and the answers about the row. -/
def disposition (failure : BatchFailure) (own : OwnAnswers Number) (event : LocalEvent Number) : MarkKind :=
  if transmittable config event then
    match failure with
    | .none => accounted config own.record event
    | .readback error => recoverLocalDelivery config error event
    | .adopted => if differs config own.record event then differing config differsReason event
        else accounted config own.record event
    | .release error => if differs config own.record event then differing config differsReason event
        else recoverLocalDelivery config error event
    | .again insertError failed =>
        if differs config own.record event then differing config differsReason event
        else if own.record.isSome || mayInsert own.answer then
          match failed with
          | some error => recoverLocalDelivery config error event
          | none => accounted config own.again event
        else answered config insertError own.answer event
  else refusal event

variable (remote : UploadRemote Number)

/-- The records behind the second insert: its own, or those of a readback that finds each row. -/
def insertedAgain (retry : List (LocalEvent Number)) : Except UploadError (List (PassiveEventRecord Number)) :=
  match insertBatch config remote.insertAgain retry with
  | .ok records => .ok records
  | .error retryError =>
      match remote.readAgain (readKeys retry) with
      | .error readbackError => .error readbackError
      | .ok records =>
          if retry.any fun event => isDiffering config records event || isMissing records event then .error retryError
          else .ok records

/-- The rows that go into the second insert. -/
def retried (supported : List (LocalEvent Number)) (records : List (PassiveEventRecord Number))
    (answers : List ReleaseAnswer) : List (LocalEvent Number) :=
  (supported.filter fun event => !isDiffering config records event).filter (goesAgain records answers)

/-- The answers of the first round: the record that was read, or what the other projects say. -/
def firstAnswers (records : List (PassiveEventRecord Number)) (answers : List ReleaseAnswer)
    (again : Option (PassiveEventRecord Number)) (event : LocalEvent Number) : OwnAnswers Number :=
  ⟨recordOf records event, if isMissing records event then answerOf answers event else none, again⟩

/-- The failures and the answers that the remote calls of an upload come to. -/
inductive Answers (supported : List (LocalEvent Number)) : BatchFailure → (LocalEvent Number → OwnAnswers Number) → Prop
  | empty : supported = [] → Answers supported .none fun _ => ⟨none, none, none⟩
  | inserted {records} : insertBatch config remote.insertEvents supported = .ok records →
      Answers supported .none fun event => ⟨recordOf records event, none, none⟩
  | unread {insertError error} : insertBatch config remote.insertEvents supported = .error insertError →
      remote.readEvents (readKeys supported) = .error error →
        Answers supported (.readback error) fun _ => ⟨none, none, none⟩
  | adopted {insertError records} : insertBatch config remote.insertEvents supported = .error insertError →
      remote.readEvents (readKeys supported) = .ok records → supported.filter (isMissing records) = [] →
        Answers supported .adopted fun event => ⟨recordOf records event, none, none⟩
  | unreleased {insertError records error} : insertBatch config remote.insertEvents supported = .error insertError →
      remote.readEvents (readKeys supported) = .ok records →
        releaseBatch config remote (supported.filter (isMissing records)) = .error error →
          Answers supported (.release error) fun event => ⟨recordOf records event, none, none⟩
  | released {insertError records answers} : insertBatch config remote.insertEvents supported = .error insertError →
      remote.readEvents (readKeys supported) = .ok records →
        releaseBatch config remote (supported.filter (isMissing records)) = .ok answers →
          retried config supported records answers = [] →
            Answers supported (.again insertError none) (firstAnswers records answers none)
  | refused {insertError records answers error} :
      insertBatch config remote.insertEvents supported = .error insertError →
      remote.readEvents (readKeys supported) = .ok records →
        releaseBatch config remote (supported.filter (isMissing records)) = .ok answers →
          insertedAgain config remote (retried config supported records answers) = .error error →
            Answers supported (.again insertError (some error)) (firstAnswers records answers none)
  | reinserted {insertError records answers again} :
      insertBatch config remote.insertEvents supported = .error insertError →
      remote.readEvents (readKeys supported) = .ok records →
        releaseBatch config remote (supported.filter (isMissing records)) = .ok answers →
          insertedAgain config remote (retried config supported records answers) = .ok again →
            Answers supported (.again insertError none) fun event => firstAnswers records answers
              (if goesAgain records answers event then recordOf again event else none) event

end Dispositions

section Stages

variable {config : UploadConfig Number} {remote : UploadRemote Number} {owner : JsString}
  {claimed : List (LocalEvent Number)} {state after : UploadState Number} {unsettled : Unsettled Number}

/-- The rows that are left over are accounted for by their records. -/
inductive Leaves (config : UploadConfig Number) (owner : JsString) (claimed : List (LocalEvent Number))
    (kind : LocalEvent Number → MarkKind) (state : UploadState Number) : Unsettled Number → Prop
  | nothing : Progress config owner claimed (fun event => some (kind event)) state →
      Leaves config owner claimed kind state none
  | batch {chosen records} :
      Progress config owner claimed (fun event => if chosen event then none else some (kind event)) state →
      (∀ event ∈ claimed, chosen event = true → kind event = accounted config (recordOf records event) event) →
        Leaves config owner claimed kind state (some (claimed.filter chosen, records))

theorem insertRest_eq (retry : List (LocalEvent Number)) :
    insertRest config remote retry state = match insertedAgain config remote retry with
      | .ok records => pure (state, some (retry, records))
      | .error error => (performAll config retry (recoverLocalDelivery config error) state).map (·, none) := by
  unfold insertRest insertedAgain
  cases insertBatch config remote.insertAgain retry with
  | ok records => rfl
  | error retryError =>
      cases remote.readAgain (readKeys retry) with
      | error readbackError => rfl
      | ok records =>
          dsimp only
          split
          · rfl
          · rfl

theorem disposition_adopted {records : List (PassiveEventRecord Number)} {event : LocalEvent Number} :
    disposition config .adopted ⟨recordOf records event, none, none⟩ event =
      if transmittable config event then
        if isDiffering config records event then differing config differsReason event
        else accounted config (recordOf records event) event
      else refusal event := rfl

theorem disposition_release {records : List (PassiveEventRecord Number)} {error : UploadError}
    {event : LocalEvent Number} :
    disposition config (.release error) ⟨recordOf records event, none, none⟩ event =
      if transmittable config event then
        if isDiffering config records event then differing config differsReason event
        else recoverLocalDelivery config error event
      else refusal event := rfl

/-- The answers of the first round place a row as the code places it. -/
theorem disposition_again {records : List (PassiveEventRecord Number)} {answers : List ReleaseAnswer}
    {again : Option (PassiveEventRecord Number)} {insertError : UploadError} {failed : Option UploadError}
    {event : LocalEvent Number} :
    disposition config (.again insertError failed) (firstAnswers records answers again event) event =
      if transmittable config event then
        if isDiffering config records event then differing config differsReason event
        else if goesAgain records answers event then
          match failed with
          | some error => recoverLocalDelivery config error event
          | none => accounted config again event
        else answered config insertError (answerOf answers event) event
      else refusal event := by
  unfold disposition differs isDiffering goesAgain isMissing firstAnswers
  cases record : recordOf records event with
  | none => simp [isMissing, record]
  | some record => simp

/-- The rows that are settled before the second insert. -/
def settledFirst (config : UploadConfig Number) (insertError : UploadError)
    (records : List (PassiveEventRecord Number)) (answers : List ReleaseAnswer) (event : LocalEvent Number) :
    Option MarkKind :=
  if transmittable config event then
    if isDiffering config records event then some (differing config differsReason event)
    else if goesAgain records answers event then none
    else some (answered config insertError (answerOf answers event) event)
  else some (refusal event)

theorem retried_filter {records : List (PassiveEventRecord Number)} {answers : List ReleaseAnswer} :
    retried config (claimed.filter (transmittable config)) records answers = claimed.filter fun event =>
      goesAgain records answers event && (!isDiffering config records event && transmittable config event) := by
  rw [retried, List.filter_filter, List.filter_filter]
  refine List.filter_congr fun event _ => ?_
  cases goesAgain records answers event <;> cases isDiffering config records event <;>
    cases transmittable config event <;> rfl

theorem insertRest_leaves (batch : ClaimedBatch claimed)
    (owns : localNonblank "claim owner" config.owner = .ok owner) {insertError : UploadError}
    {records : List (PassiveEventRecord Number)} {answers : List ReleaseAnswer}
    (progress : Progress config owner claimed (settledFirst config insertError records answers) state)
    (failed : insertBatch config remote.insertEvents (claimed.filter (transmittable config)) = .error insertError)
    (read : remote.readEvents (readKeys (claimed.filter (transmittable config))) = .ok records)
    (released : releaseBatch config remote ((claimed.filter (transmittable config)).filter (isMissing records)) =
      .ok answers)
    (ran : insertRest config remote (retried config (claimed.filter (transmittable config)) records answers) state =
      .ok (after, unsettled)) :
    ∃ failure own, Answers config remote (claimed.filter (transmittable config)) failure own ∧
      Leaves config owner claimed (fun event => disposition config failure (own event) event) after unsettled := by
  rw [insertRest_eq] at ran
  split at ran
  · next inserted reinserted =>
      cases Except.pure_eq_ok.mp ran
      refine ⟨_, _, .reinserted failed read released reinserted, ?_⟩
      rw [retried_filter]
      refine .batch (progress.of_settled fun event _ => ?_) fun event _ kept => ?_
      · rw [disposition_again, settledFirst]
        cases goesAgain records answers event <;> cases isDiffering config records event <;>
          cases transmittable config event <;> rfl
      · obtain ⟨goes, both⟩ := Bool.and_eq_true_iff.mp kept
        obtain ⟨same, sent⟩ := Bool.and_eq_true_iff.mp both
        rw [disposition_again, if_pos sent, if_neg (by simpa using same), if_pos goes, if_pos goes]
  · next error refused =>
      obtain ⟨recovered, marked, same⟩ := Except.map_eq_ok.mp ran
      cases same
      refine ⟨_, _, .refused failed read released refused, .nothing ?_⟩
      rw [retried_filter] at marked
      refine (progress.performAll batch owns (fun event _ open' => ?_) marked).of_settled fun event _ => ?_
      · obtain ⟨goes, both⟩ := Bool.and_eq_true_iff.mp open'
        obtain ⟨same, sent⟩ := Bool.and_eq_true_iff.mp both
        rw [settledFirst, if_pos sent, if_neg (by simpa using same), if_pos goes]
      · rw [disposition_again, settledFirst]
        cases goesAgain records answers event <;> cases isDiffering config records event <;>
          cases transmittable config event <;> rfl

theorem settleFailedUpload_leaves (batch : ClaimedBatch claimed)
    (owns : localNonblank "claim owner" config.owner = .ok owner)
    (progress : Progress config owner claimed
      (fun event => if transmittable config event then none else some (refusal event)) state)
    {insertError : UploadError}
    (failed : insertBatch config remote.insertEvents (claimed.filter (transmittable config)) = .error insertError)
    (settled : settleFailedUpload config remote (claimed.filter (transmittable config)) insertError state =
      .ok (after, unsettled)) :
    ∃ failure own, Answers config remote (claimed.filter (transmittable config)) failure own ∧
      Leaves config owner claimed (fun event => disposition config failure (own event) event) after unsettled := by
  unfold settleFailedUpload at settled
  split at settled
  · next error unread =>
      simp only [Except.bind_eq_ok] at settled
      obtain ⟨recovered, ran, same⟩ := settled
      cases Except.pure_eq_ok.mp same
      refine ⟨_, _, .unread failed unread, .nothing ?_⟩
      refine (progress.performAll batch owns (fun event _ open' => by simp [open']) ran).of_settled fun event _ => ?_
      rw [disposition]
      split
      · rfl
      · rfl
  · next records read =>
      simp only [Except.bind_eq_ok] at settled
      obtain ⟨marked, ran, rest⟩ := settled
      rw [List.filter_filter] at ran
      replace progress := progress.performAll batch owns (fun event _ open' => by simp_all) ran
      split at rest
      · next nothing =>
          cases Except.pure_eq_ok.mp rest
          have all : ∀ event ∈ claimed, transmittable config event = true → isDiffering config records event = true := by
            intro event member sent
            by_contra same
            have kept : event ∈ (claimed.filter (transmittable config)).filter fun event =>
                !isDiffering config records event := by
              simp [member, sent, Bool.eq_false_iff.mpr same]
            rw [nothing] at kept
            cases kept
          have present : (claimed.filter (transmittable config)).filter (isMissing records) = [] := by
            rw [List.filter_eq_nil_iff]
            intro event inside missing
            obtain ⟨member, sent⟩ := List.mem_filter.mp inside
            have differing := all event member sent
            rw [isDiffering, Option.isNone_iff_eq_none.mp missing] at differing
            cases differing
          refine ⟨_, _, .adopted failed read present, .nothing (progress.of_settled fun event member => ?_)⟩
          rw [disposition_adopted]
          by_cases sent : transmittable config event = true
          · simp only [sent, all event member sent, Bool.and_self, if_true]
          · simp only [sent, Bool.and_false, Bool.false_eq_true, if_false]
      · have others : (claimed.filter (transmittable config)).filter (fun event => !isDiffering config records event) =
            claimed.filter fun event => !isDiffering config records event && transmittable config event :=
          List.filter_filter
        have again : ∀ goes : LocalEvent Number → Bool,
            (claimed.filter fun event => !isDiffering config records event && transmittable config event).filter goes =
              claimed.filter fun event => goes event && (!isDiffering config records event && transmittable config event) :=
          fun _ => List.filter_filter
        rw [others] at rest
        split at rest
        · next present =>
            cases Except.pure_eq_ok.mp rest
            refine ⟨_, _, .adopted failed read present, .batch (progress.of_settled fun event _ => ?_) fun event _ kept => ?_⟩
            · rw [disposition_adopted]
              cases isDiffering config records event <;> cases transmittable config event <;> rfl
            · rw [disposition_adopted]
              obtain ⟨same, sent⟩ := Bool.and_eq_true_iff.mp kept
              rw [if_pos sent, if_neg (by simpa using same)]
        · split at rest
          · next error unreleased =>
              simp only [Except.bind_eq_ok] at rest
              obtain ⟨recovered, ran, same⟩ := rest
              cases Except.pure_eq_ok.mp same
              refine ⟨_, _, .unreleased failed read unreleased, .nothing ?_⟩
              refine (progress.performAll batch owns (fun event _ open' => ?_) ran).of_settled fun event _ => ?_
              · cases differing : isDiffering config records event <;> simp_all
              · rw [disposition_release]
                cases isDiffering config records event <;> cases transmittable config event <;> rfl
          · next answers released =>
              simp only [Except.bind_eq_ok] at rest
              obtain ⟨answeredState, ran, rest⟩ := rest
              rw [again] at ran
              replace progress := progress.performAll batch owns (fun event _ open' => by simp_all) ran
              replace progress : Progress config owner claimed (settledFirst config insertError records answers)
                  answeredState := by
                refine progress.of_settled fun event _ => ?_
                rw [settledFirst]
                cases goesAgain records answers event <;> cases isDiffering config records event <;>
                  cases transmittable config event <;> rfl
              have retries : retried config (claimed.filter (transmittable config)) records answers =
                  (claimed.filter fun event => !isDiffering config records event &&
                    transmittable config event).filter (goesAgain records answers) := by
                rw [retried, others]
              rw [← retries] at rest
              split at rest
              · next nothing =>
                  cases Except.pure_eq_ok.mp rest
                  refine ⟨_, _, .released failed read released nothing, .nothing ?_⟩
                  refine progress.of_settled fun event member => ?_
                  have stays : event ∉ retried config (claimed.filter (transmittable config)) records answers := by
                    rw [nothing]
                    exact List.not_mem_nil
                  rw [retried_filter, List.mem_filter, not_and, Bool.not_eq_true] at stays
                  replace stays := stays member
                  rw [disposition_again, settledFirst]
                  revert stays
                  cases goesAgain records answers event <;> cases isDiffering config records event <;>
                    cases transmittable config event <;> intro stays <;> first | rfl | cases stays
              · exact insertRest_leaves batch owns progress failed read released rest

/-- The rows that a claim returns are ready to be settled. -/
theorem claimDeliveries_ready {run : OutboxRun Number} {machineId : JsString} {limit staleClaimMs : Int}
    {clock : LocalClock} {claimed : List (LocalEvent Number)} {table : EventsTable Number}
    (reached : ((outboxSystem config.platform).restrict DrawsIds).Reachable run)
    (claims : run.table.claimDeliveries ⟨machineId, config.owner, limit, staleClaimMs⟩ clock = .ok (claimed, table)) :
    ∃ owner, localNonblank "claim owner" config.owner = .ok owner ∧ ClaimedBatch claimed ∧
      ∀ event ∈ claimed, event.2.delivery.state = .claimed clock.now owner ∧ Ready owner table event := by
  have canonical := (OutboxRun.canonicalIds reached).claimDeliveries claims
  obtain ⟨machine, owner, owns, claims⟩ := EventsTable.claimDeliveries_claims claims
  refine ⟨owner, owns, ?_, ?_⟩
  · constructor
    · exact (EventsTable.activeRows_nodup run.table).sublist claims.first.sublist
    · intro first one second two same
      exact table.unique _ _ _ _ (claims.returned first one) (claims.returned second two) (.inl same)
    · exact fun event member => canonical _ _ (claims.returned event member)
  · intro event member
    have listed : event.1 ∈ claimed.map Prod.fst := List.mem_map_of_mem member
    obtain ⟨row, found, active⟩ := EventsTable.activeRows_found (claims.first.subset listed)
    have left := claims.returned event member
    rw [claims.rows, found, Option.map_some, if_pos listed, Option.some.injEq] at left
    have unknown := ((OutboxRun.Lasting.reachable reached.of_restrict).sound event.1 row found).unknown active
    have kept : (EventsTable.withMachine machine clock row).delivery.remoteInboxId = none := by
      rw [EventsTable.withMachine]
      split
      · exact unknown
      · exact unknown
    have state : event.2.delivery.state = .claimed clock.now owner := by
      rw [← left]
      rfl
    refine ⟨state, event.2, claims.returned event member, rfl, ?_, ?_⟩
    · rw [EventsTable.claimedBy, state]
      exact beq_self_eq_true owner
    · rw [← left]
      exact kept

theorem uploadSupported_settles (batch : ClaimedBatch claimed)
    (owns : localNonblank "claim owner" config.owner = .ok owner)
    (progress : Progress config owner claimed
      (fun event => if transmittable config event then none else some (refusal event)) state)
    (uploaded : uploadSupported config remote (claimed.filter (transmittable config)) state = .ok after) :
    ∃ failure own, Answers config remote (claimed.filter (transmittable config)) failure own ∧
      Progress config owner claimed (fun event => some (disposition config failure (own event) event)) after := by
  unfold uploadSupported at uploaded
  split at uploaded
  · next records inserted =>
      refine ⟨_, _, .inserted inserted, ?_⟩
      refine (progress.accountAll batch owns (fun event _ open' => by rw [if_pos open']) uploaded).of_settled
        fun event _ => ?_
      rw [disposition]
      split
      · rfl
      · rfl
  · next insertError failed =>
      simp only [Except.bind_eq_ok] at uploaded
      obtain ⟨⟨settledState, unsettled⟩, settled, rest⟩ := uploaded
      obtain ⟨failure, own, answers, leaves⟩ := settleFailedUpload_leaves batch owns progress failed settled
      refine ⟨failure, own, answers, ?_⟩
      cases leaves with
      | nothing done =>
          cases Except.pure_eq_ok.mp rest
          exact done
      | @batch chosen records left accounts =>
          have accounted := left.accountAll batch owns (fun event _ open' => by rw [if_pos open']) rest
          refine accounted.of_settled fun event member => ?_
          by_cases open' : chosen event = true
          · rw [if_pos open', accounts event member open']
          · rw [if_neg open', if_neg open']

end Stages

/-- The row is settled as delivered to the remote side. -/
def MarkKind.IsDelivered : MarkKind → Prop
  | .replicated _ | .acknowledged _ => True
  | .deliveryRetry _ | .deliveryQuarantined _ | .quarantined _ _ => False

/-- No answer about a row tells of a copy that differs from it. -/
def OwnAnswers.Agree (config : UploadConfig Number) (own : OwnAnswers Number) (event : LocalEvent Number) : Prop :=
  (∀ record, own.record = some record ∨ own.again = some record → sameEnvelope config event.2.envelope record = true) ∧
    own.answer ≠ some .mismatch

section Settled

variable {config : UploadConfig Number} {remote : UploadRemote Number}

theorem recoverLocalDelivery_undelivered {error : UploadError} {event : LocalEvent Number} :
    ¬ (recoverLocalDelivery config error event).IsDelivered := by
  unfold recoverLocalDelivery
  split
  · split
    · exact id
    · exact id
  · exact id

theorem differing_undelivered {reason : JsString} {event : LocalEvent Number} :
    ¬ (differing config reason event).IsDelivered := by
  unfold differing
  split
  · exact id
  · exact id

theorem accounted_delivered {record : Option (PassiveEventRecord Number)} {event : LocalEvent Number}
    (delivered : (accounted config record event).IsDelivered) :
    ∀ found, record = some found → sameEnvelope config event.2.envelope found = true := by
  rintro found rfl
  by_contra different
  rw [accounted, Option.filter_some, if_neg different] at delivered
  exact delivered

theorem answered_delivered {insertError : UploadError} {answer : Option ReleaseOutcome} {event : LocalEvent Number}
    (delivered : (answered config insertError answer event).IsDelivered) : answer ≠ some .mismatch := by
  rintro rfl
  exact differing_undelivered delivered

theorem same_of_not_differing {records : List (PassiveEventRecord Number)} {event : LocalEvent Number}
    (same : ¬ isDiffering config records event = true) :
    ∀ record, recordOf records event = some record → sameEnvelope config event.2.envelope record = true := by
  intro record found
  by_contra different
  exact same (by simp [isDiffering, found, different])

/-- A row that goes into the second insert has no copy that differs elsewhere. -/
theorem goesAgain_answer {records : List (PassiveEventRecord Number)} {answers : List ReleaseAnswer}
    {event : LocalEvent Number} (goes : goesAgain records answers event = true) :
    (if isMissing records event then answerOf answers event else none) ≠ some .mismatch := by
  split
  · next missing =>
      intro mismatch
      rw [goesAgain, missing, mismatch] at goes
      cases goes
  · exact nofun

theorem disposition_again_delivered {records : List (PassiveEventRecord Number)} {answers : List ReleaseAnswer}
    {again : Option (PassiveEventRecord Number)} {insertError : UploadError} {failed : Option UploadError}
    {event : LocalEvent Number} (sent : ∀ record, again = some record → goesAgain records answers event = true)
    (delivered : (disposition config (.again insertError failed) (firstAnswers records answers again event)
      event).IsDelivered) : (firstAnswers records answers again event).Agree config event := by
  rw [disposition_again] at delivered
  split at delivered
  · split at delivered
    · exact (differing_undelivered delivered).elim
    · next same =>
        split at delivered
        · next goes =>
            refine ⟨?_, goesAgain_answer goes⟩
            rintro record (first | second)
            · exact same_of_not_differing same record first
            · cases failed with
              | none => exact accounted_delivered delivered record second
              | some error => exact (recoverLocalDelivery_undelivered delivered).elim
        · next stays =>
            refine ⟨?_, ?_⟩
            · rintro record (first | second)
              · exact same_of_not_differing same record first
              · exact absurd (sent record second) stays
            · show (if isMissing records event then answerOf answers event else none) ≠ some .mismatch
              split
              · exact answered_delivered delivered
              · exact nofun
  · exact delivered.elim

/-- A delivered row agrees with all that the remote calls answered about it. -/
theorem disposition_delivered {supported : List (LocalEvent Number)} {failure : BatchFailure}
    {own : LocalEvent Number → OwnAnswers Number} (answers : Answers config remote supported failure own)
    {event : LocalEvent Number} (delivered : (disposition config failure (own event) event).IsDelivered) :
    (own event).Agree config event := by
  have byRecord : ∀ record, (∀ found, record = some found → sameEnvelope config event.2.envelope found = true) →
      OwnAnswers.Agree config ⟨record, none, none⟩ event := by
    intro record same
    refine ⟨?_, nofun⟩
    rintro found (first | second)
    · exact same found first
    · cases second
  cases answers with
  | empty nothing => exact byRecord none nofun
  | @inserted records inserted =>
      refine byRecord _ fun found same => ?_
      rw [disposition] at delivered
      split at delivered
      · exact accounted_delivered delivered found same
      · exact delivered.elim
  | unread failed unread => exact byRecord none nofun
  | @adopted insertError records failed read present =>
      rw [disposition_adopted] at delivered
      split at delivered
      · split at delivered
        · exact (differing_undelivered delivered).elim
        · next same => exact byRecord _ (same_of_not_differing same)
      · exact delivered.elim
  | @unreleased insertError records error failed read unreleased =>
      rw [disposition_release] at delivered
      split at delivered
      · split at delivered
        · exact (differing_undelivered delivered).elim
        · exact (recoverLocalDelivery_undelivered delivered).elim
      · exact delivered.elim
  | released failed read released nothing => exact disposition_again_delivered nofun delivered
  | refused failed read released refused => exact disposition_again_delivered nofun delivered
  | @reinserted insertError records answers again failed read released reinserted =>
      refine disposition_again_delivered (fun record inside => ?_) delivered
      split at inside
      · next goes => exact goes
      · cases inside

/-- An upload settles each row that it claims with one call. The call follows from the failures of the whole batch
and the answers about the row, and a row is delivered only if they agree with it. -/
theorem uploadLocal_settles {run : OutboxRun Number} {claimClock : LocalClock} {summary : UploadSummary}
    {claimed : List (LocalEvent Number)} {state : UploadState Number}
    (reached : ((outboxSystem config.platform).restrict DrawsIds).Reachable run)
    (uploaded : uploadLocal config remote claimClock summary run.table = .ok (claimed, state)) :
    ∃ failure own, Answers config remote (claimed.filter (transmittable config)) failure own ∧
      ∀ event ∈ claimed, let kind := disposition config failure (own event) event
        event.2.delivery.state = .claimed claimClock.now (trim config.owner) ∧
        state.callsOf event = [(mark event kind, true)] ∧
        (∃ row, state.table.get? event.1 = some row ∧ kind.Reached config.platform row.delivery.state) ∧
        (kind.IsDelivered → (own event).Agree config event) := by
  simp only [uploadLocal, Except.bind_eq_ok] at uploaded
  obtain ⟨⟨batchRows, table⟩, claims, marked, ran, rest⟩ := uploaded
  obtain ⟨owner, owns, batch, ready⟩ := claimDeliveries_ready reached claims
  have trimmed : owner = trim config.owner := by
    rw [localNonblank] at owns
    split at owns
    · cases owns
    · cases owns
      rfl
  have waiting : Progress config owner batchRows (fun _ => none)
      ⟨table, [], if (batchRows.length : Int) = config.batchSize then { summary with backlog := true } else summary⟩ :=
    ⟨fun _ _ _ => nofun, fun event member _ => ⟨rfl, (ready event member).2⟩⟩
  have refused := waiting.performAll batch owns (fun _ _ _ => rfl) ran
  replace refused : Progress config owner batchRows
      (fun event => if transmittable config event then none else some (refusal event)) marked := by
    refine refused.of_settled fun event _ => ?_
    cases transmittable config event <;> rfl
  have settles : ∃ failure own, claimed = batchRows ∧
      Answers config remote (batchRows.filter (transmittable config)) failure own ∧
        Progress config owner batchRows (fun event => some (disposition config failure (own event) event)) state := by
    split at rest
    · next nothing =>
        cases Except.pure_eq_ok.mp rest
        refine ⟨_, _, rfl, .empty nothing, refused.of_settled fun event member => ?_⟩
        have kept : ¬ transmittable config event = true :=
          fun sent => List.filter_eq_nil_iff.mp nothing event member sent
        rw [disposition, if_neg kept, if_neg kept]
    · simp only [Except.bind_eq_ok] at rest
      obtain ⟨settled, supported, same⟩ := rest
      cases Except.pure_eq_ok.mp same
      obtain ⟨failure, own, answers, done⟩ := uploadSupported_settles batch owns refused supported
      exact ⟨failure, own, rfl, answers, done⟩
  obtain ⟨failure, own, rfl, answers, done⟩ := settles
  refine ⟨failure, own, answers, fun event member => ?_⟩
  obtain ⟨calls, row⟩ := done.done event member _ rfl
  exact ⟨trimmed ▸ (ready event member).1, calls, row, disposition_delivered answers⟩

end Settled

/-- The outbox with one event that was never claimed. -/
def sampleBacklog : OutboxRun Nat :=
  (sampleDeliveries.take 1).foldl (OutboxRun.step sampleOutboxPlatform) ⟨.empty, []⟩

def sampleUpload : UploadConfig Nat where
  platform := sampleOutboxPlatform
  payload := storingPlatform
  machineId := js "0190a000-0000-7000-8000-000000000002"
  processId := js "daemon"
  batchSize := 10
  staleClaimMs := 60000
  quarantineAfterAttempts := 5
  safeToTransmit _ := true
  clock call := ⟨6 + call, 6000 + call⟩
  retryAt _ _ _ := some 60

/-- The remote side stores the event, and the answer of the insert is lost. -/
def sampleRemote : UploadRemote Nat :=
  let inputs := (sampleOutbox.returned.take 1).map fun entry => remoteInput naturalNumbers entry.2.envelope
  let lost : UploadError := ⟨js "connection lost", none⟩
  let stored := match PassiveEventRepository.insertEvents sampleUploads inputs (fun _ => 0) (fun _ => 9) .empty with
    | .ok (records, _) => records
    | .error _ => []
  ⟨fun _ => .error lost, fun _ => .ok stored, fun _ => .ok [], fun _ => .error lost, fun _ => .ok stored⟩

/-- The event whose insert has no answer is found and marked as replicated. -/
theorem uploadLocal_sample : ∃ claimed state failure, ∃ own : LocalEvent Nat → OwnAnswers Nat,
    uploadLocal sampleUpload sampleRemote ⟨5, 5000⟩ ⟨0, 0, 0, 0, false⟩ sampleBacklog.table = .ok (claimed, state) ∧
      claimed.map Prod.fst = [1] ∧ state.calls.map (fun call => call.1.kind) = [.replicated 1] ∧
        ∀ event ∈ claimed,
          state.callsOf event = [(mark event (disposition sampleUpload failure (own event) event), true)] := by
  have ran : (uploadLocal sampleUpload sampleRemote ⟨5, 5000⟩ ⟨0, 0, 0, 0, false⟩ sampleBacklog.table).map
      (fun result => (result.1.map Prod.fst, result.2.calls.map fun call => call.1.kind)) =
        .ok ([1], [.replicated 1]) := by decide +kernel
  have reached : ((outboxSystem sampleUpload.platform).restrict DrawsIds).Reachable sampleBacklog := by
    refine .fold_restrict (fun _ _ => rfl) (fun action inside state => ?_) (.start rfl)
    obtain rfl := List.mem_singleton.mp inside
    show localEventUuid (js "0190a000-0000-4000-8000-00000000000a") = .ok (js "0190a000-0000-4000-8000-00000000000a")
    decide +kernel
  obtain ⟨⟨claimed, state⟩, uploaded, same⟩ := Except.map_eq_ok.mp ran
  obtain ⟨ids, kinds⟩ := Prod.mk.inj same
  obtain ⟨failure, own, _, settles⟩ := uploadLocal_settles reached uploaded
  exact ⟨claimed, state, failure, own, uploaded, ids, kinds, fun event member => (settles event member).2.1⟩

end Lcm.Daemon
