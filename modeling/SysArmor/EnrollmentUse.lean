import Mathlib.Data.Set.Function
import SysArmor.EnrollmentHandlers

/-! What the answers of a run say about one enrollment: it is issued to one key, and its ticket is
redeemed once. -/
namespace SysArmor.Manager
open GoText

def IssueEvent.bound (event : IssueEvent) : Bool := event.result = .issued || event.result = .replay

def EnrollmentEvent.issuesAt (place : Nat) : EnrollmentEvent → Bool
  | .issue event => event.place = some place && event.result = .issued
  | _ => false

def EnrollmentEvent.consumesAt (place : Nat) : EnrollmentEvent → Bool
  | .fetch event => event.place = some place && event.consumed
  | _ => false

/-- The enrollment at a place of the table is used once: one certificate is issued, to one key; every successful
answer carries it, or the one that was issued before; other keys are refused; and the bootstrap ticket is
consumed once. -/
structure SingleUse (st : Store) (place : Nat) (events : List EnrollmentEvent) : Prop where
  issuedOnce : events.countP (·.issuesAt place) ≤ 1
  oneKey : ∀ a b, .issue a ∈ events → .issue b ∈ events → a.place = some place → b.place = some place →
    a.bound → b.bound → a.publicKey = b.publicKey
  oneCertificate : ∀ a b, .issue a ∈ events → .issue b ∈ events → a.place = some place → b.place = some place →
    ∀ first second, a.answer = .ok first → b.answer = .ok second → first = second
  carriesIssued : ∀ a b, .issue a ∈ events → .issue b ∈ events → a.place = some place → b.place = some place →
    a.result = .issued → ∀ answer, b.answer = .ok answer → answer.certificatePEM = a.certificatePEM
  carriesStored : ∀ enrollment, st.enrollments[place]? = some enrollment → enrollment.status = "issued" →
    ∀ b, .issue b ∈ events → b.place = some place → ∀ answer, b.answer = .ok answer →
      answer.certificatePEM = enrollment.issuedCertificatePEM
  othersFail : ∀ a b, .issue a ∈ events → .issue b ∈ events → a.place = some place → b.place = some place →
    a.bound → b.publicKey ≠ a.publicKey → ∃ failed, b.answer = .error failed
  consumedOnce : events.countP (·.consumesAt place) ≤ 1

def Store.IssuedAt (st : Store) (place : Nat) (enrollment : Enrollment) : Prop :=
  st.enrollments[place]? = some enrollment ∧ enrollment.status = "issued"

def Store.SpentAt (st : Store) (place : Nat) : Prop :=
  ∃ enrollment, st.enrollments[place]? = some enrollment ∧
    (enrollment.status ≠ "active" ∨ enrollment.bootstrapFetchedAt ≠ none)

def EnrollmentEvent.FollowsAt (digest : String → String) (place : Nat) (enrollment : Enrollment) : EnrollmentEvent → Prop
  | .issue event => event.place = some place → event.bound →
    enrollment.issuedKeySHA256 = trimSpace (digest event.publicKey) ∧
      (∀ answer, event.answer = .ok answer → answer = enrollment.answer) ∧
      (event.result = .issued → enrollment.issuedCertificatePEM = event.certificatePEM)
  | _ => True

inductive Moves (digest : String → String) (st : Store) : Store → EnrollmentEvent → Prop
  | prepared : Moves digest st st .prepared
  | refused : Moves digest st st (.refused failed)
  | absent : Moves digest st st .absent
  | commit (outcome : Commits st tokenHash (digest publicKey) proposed (after,enrollment,result)) :
      Moves digest st after (.issue { place := st.placeOfToken tokenHash, publicKey, result,
                                      certificatePEM := proposed.issuedCertificatePEM
                                      answer := answerIssue saveErr enrollment result })
  | fetch (outcome : Redeems st bootstrapHash (after,enrollment)) :
      Moves digest st after (.fetch { place := st.placeOfTicket bootstrapHash, consumed := enrollment.isSome, answer })

section Steps
variable {digest : String → String} {authority : Option CertificateAuthority} {st after : Store} {event : EnrollmentEvent}

lemma EnrollmentServer.step_moves (digest : String → String) (authority : Option CertificateAuthority) {m : EnrollmentServer}
    (memory : m.store.backend = none) (next : EnrollmentStep) :
    Moves digest m.store (m.step digest authority next).1.store (m.step digest authority next).2 := by
  cases next with
  | prepare call =>
    simp only [EnrollmentServer.step]
    split
    · exact .refused
    · exact .prepared
  | commit slot now saveErr =>
    simp only [EnrollmentServer.step]
    split
    · exact .absent
    rename_i pending _
    have outcome := commits memory now true pending.tokenHash (digest pending.publicKey) pending.proposed
    generalize m.store.commitEnrollmentIssue now true pending.tokenHash (digest pending.publicKey) pending.proposed = committed
      at outcome
    exact .commit outcome
  | fetch call =>
    obtain ⟨redeemed,outcome,store,consumed⟩ := agentInstallScript_redeems digest memory call
    simp only [EnrollmentServer.step,store,consumed]
    exact .fetch outcome

lemma Moves.memory (moves : Moves digest st after event) (memory : st.backend = none) : after.backend = none := by
  cases moves with
  | prepared => exact memory
  | refused => exact memory
  | absent => exact memory
  | commit outcome =>
    cases outcome with
    | refused => exact memory
    | replayed => exact memory
    | issued _ _ _ _ _ _ memory => exact memory
  | fetch outcome =>
    cases outcome with
    | refused => exact memory
    | consumed _ _ _ _ _ memory => exact memory

variable {touched : Nat} {attempt : IssueEvent}

lemma Store.IssuedAt.ne_active (issued : st.IssuedAt place enrollment)
    (here : st.enrollments[touched]? = some old) (active : old.status = "active") : place ≠ touched := by
  rintro rfl
  cases here.symm.trans issued.1
  exact absurd (active.symm.trans issued.2) (by simp)

lemma answerIssue_ok (answered : answerIssue saveErr enrollment result = .ok answer) :
    (result = .issued ∨ result = .replay) ∧ answer = enrollment.answer := by
  cases result with
  | conflict => cases answered
  | missing => cases answered
  | issued =>
    cases saveErr with
    | some err => cases answered
    | none => exact ⟨.inl rfl,(Except.ok.inj answered).symm⟩
  | replay =>
    cases saveErr with
    | some err => cases answered
    | none => exact ⟨.inr rfl,(Except.ok.inj answered).symm⟩

open EnrollmentEvent

lemma followsAt (key : enrollment.issuedKeySHA256 = trimSpace (digest publicKey))
    (certificate : result = .issued → enrollment.issuedCertificatePEM = certificatePEM) :
    (issue { place := seen, publicKey, certificatePEM, result
             answer := answerIssue saveErr enrollment result }).FollowsAt digest place enrollment := by
  refine fun _ _ => ⟨key,fun answer answered => ?_,certificate⟩
  dsimp only at answered
  exact (answerIssue_ok answered).2

lemma Moves.keepsIssued (moves : Moves digest st after event) (issued : st.IssuedAt place enrollment) :
    after.IssuedAt place enrollment ∧ event.FollowsAt digest place enrollment ∧ event.issuesAt place = false := by
  cases moves with
  | prepared => exact ⟨issued,trivial,rfl⟩
  | refused => exact ⟨issued,trivial,rfl⟩
  | absent => exact ⟨issued,trivial,rfl⟩
  | commit outcome =>
    cases outcome with
    | refused unbound =>
      refine ⟨issued,fun _ bound => ?_,by simp [EnrollmentEvent.issuesAt,unbound.1]⟩
      simp [IssueEvent.bound,unbound.1,unbound.2] at bound
    | replayed found here _ key =>
      refine ⟨issued,fun there => ?_,by simp [issuesAt]⟩
      cases found.symm.trans there
      cases here.symm.trans issued.1
      exact followsAt key nofun there
    | issued found here active _ _ _ _ changed =>
      have other := issued.ne_active here active
      refine ⟨⟨by rw [changed,if_neg other]; exact issued.1,issued.2⟩,fun there => ?_,?_⟩
      · exact absurd (Option.some.inj (there.symm.trans found)) other
      · simp [EnrollmentEvent.issuesAt,found,Ne.symm other]
  | fetch outcome =>
    cases outcome with
    | refused => exact ⟨issued,trivial,rfl⟩
    | consumed found here active _ _ _ changed =>
      have other := issued.ne_active here active
      exact ⟨⟨by rw [changed,if_neg other]; exact issued.1,issued.2⟩,trivial,rfl⟩

lemma Moves.bound (moves : Moves digest st after (.issue attempt)) (there : attempt.place = some place)
    (bound : attempt.bound) :
    ∃ enrollment, after.IssuedAt place enrollment ∧ (EnrollmentEvent.issue attempt).FollowsAt digest place enrollment := by
  cases moves with
  | commit outcome =>
    cases outcome with
    | refused unbound => simp [IssueEvent.bound,unbound.1,unbound.2] at bound
    | replayed found here issued key =>
      cases found.symm.trans there
      exact ⟨_,⟨here,issued⟩,followsAt key nofun⟩
    | issued found here active issued key certificate memory changed =>
      cases found.symm.trans there
      exact ⟨_,⟨by rw [changed,if_pos rfl],issued⟩,followsAt key fun _ => certificate⟩

lemma Moves.answered (moves : Moves digest st after (.issue attempt))
    (answered : attempt.answer = .ok answer) : attempt.bound := by
  cases moves with
  | commit outcome =>
    dsimp only at answered
    simpa [IssueEvent.bound] using (answerIssue_ok answered).1

lemma Store.SpentAt.changed (spent : st.SpentAt place)
    (changed : ∀ other : Nat, after.enrollments[other]? = if other = touched then some enrollment else st.enrollments[other]?)
    (unfit : enrollment.status ≠ "active" ∨ enrollment.bootstrapFetchedAt ≠ none) : after.SpentAt place := by
  by_cases same : place = touched
  · exact ⟨enrollment,by rw [changed,if_pos same],unfit⟩
  · obtain ⟨old,listed,spent⟩ := spent
    exact ⟨old,by rw [changed,if_neg same]; exact listed,spent⟩

lemma Moves.keepsSpent (moves : Moves digest st after event) (spent : st.SpentAt place) :
    after.SpentAt place ∧ event.consumesAt place = false := by
  cases moves with
  | prepared => exact ⟨spent,rfl⟩
  | refused => exact ⟨spent,rfl⟩
  | absent => exact ⟨spent,rfl⟩
  | commit outcome =>
    cases outcome with
    | refused => exact ⟨spent,rfl⟩
    | replayed => exact ⟨spent,rfl⟩
    | issued _ _ _ issued _ _ _ changed => exact ⟨spent.changed changed (.inl (by simp [issued])),rfl⟩
  | fetch outcome =>
    cases outcome with
    | refused => exact ⟨spent,by simp [consumesAt]⟩
    | consumed found here active unfetched fetched _ changed =>
      refine ⟨spent.changed changed (.inr fetched),?_⟩
      obtain ⟨enrollment,listed,unfit⟩ := spent
      simp only [consumesAt,found,Option.isSome_some,Bool.and_true,decide_eq_false_iff_not,Option.some.injEq]
      rintro rfl
      cases here.symm.trans listed
      exact unfit.elim (· active) (· unfetched)

lemma Moves.spends (moves : Moves digest st after event) (consumes : event.consumesAt place) : after.SpentAt place := by
  cases moves with
  | fetch outcome =>
    cases outcome with
    | refused => simp [consumesAt] at consumes
    | consumed found here _ _ fetched _ changed =>
      simp only [EnrollmentEvent.consumesAt,found,Option.isSome_some,Bool.and_true,decide_eq_true_eq,Option.some.injEq] at consumes
      exact ⟨_,by rw [changed,if_pos consumes.symm],.inr fetched⟩
  | _ => cases consumes

end Steps

section Runs
variable {digest : String → String} {authority : Option CertificateAuthority}
open EnrollmentServer

variable {m : EnrollmentServer} {steps : List EnrollmentStep}

lemma events_answered (digest : String → String) (authority : Option CertificateAuthority)
    (memory : m.store.backend = none) (steps : List EnrollmentStep) :
    ∀ attempt, .issue attempt ∈ m.events digest authority steps → ∀ answer, attempt.answer = .ok answer → attempt.bound := by
  induction steps generalizing m with
  | nil => simp [events]
  | cons next steps ih =>
    have moves := step_moves digest authority memory next
    intro attempt mem answer answered
    rcases List.mem_cons.mp mem with happens | mem
    · rw [← happens] at moves
      exact moves.answered answered
    · exact ih (moves.memory memory) attempt mem answer answered

lemma events_follow (memory : m.store.backend = none) (issued : m.store.IssuedAt place enrollment)
    : ∀ event ∈ m.events digest authority steps, event.FollowsAt digest place enrollment := by
  induction steps generalizing m with
  | nil => simp [events]
  | cons next steps ih =>
    have moves := step_moves digest authority memory next
    obtain ⟨issued,follows,-⟩ := moves.keepsIssued issued
    intro event mem
    rcases List.mem_cons.mp mem with rfl | mem
    · exact follows
    · exact ih (moves.memory memory) issued event mem

lemma exists_followsAt (digest : String → String) (authority : Option CertificateAuthority)
    (memory : m.store.backend = none) (steps : List EnrollmentStep) (place : Nat) :
    ∃ enrollment, ∀ event ∈ m.events digest authority steps, event.FollowsAt digest place enrollment := by
  induction steps generalizing m with
  | nil => exact ⟨{},by simp [events]⟩
  | cons next steps ih =>
    have moves := step_moves digest authority memory next
    simp only [events,List.forall_mem_cons]
    generalize (m.step digest authority next).2 = event at moves
    by_cases binds : ∃ attempt : IssueEvent, event = .issue attempt ∧ attempt.place = some place ∧ attempt.bound
    · obtain ⟨attempt,rfl,there,bound⟩ := binds
      obtain ⟨enrollment,issued,follows⟩ := moves.bound there bound
      exact ⟨enrollment,follows,events_follow (moves.memory memory) issued⟩
    obtain ⟨enrollment,follows⟩ := ih (moves.memory memory)
    refine ⟨enrollment,?_,follows⟩
    cases event with
    | issue attempt => exact fun there bound => absurd ⟨attempt,rfl,there,bound⟩ binds
    | _ => trivial

lemma countP_events_le_one {flag : EnrollmentEvent → Bool} {past : Store → Prop}
    (ends : ∀ {st after event}, Moves digest st after event → flag event → past after)
    (stays : ∀ {st after event}, Moves digest st after event → past st → past after ∧ flag event = false)
    (memory : m.store.backend = none) : (m.events digest authority steps).countP flag ≤ 1 ∧
      (past m.store → (m.events digest authority steps).countP flag = 0) := by
  induction steps generalizing m with
  | nil => simp [events]
  | cons next steps ih =>
    have moves := step_moves digest authority memory next
    obtain ⟨once,never⟩ := ih (moves.memory memory)
    simp only [events,List.countP_cons]
    constructor
    · by_cases happens : flag (m.step digest authority next).2
      · simp [happens,never (ends moves happens)]
      · simpa [happens] using once
    intro done
    obtain ⟨done,silent⟩ := stays moves done
    simp [silent,never done]

lemma Moves.issues (moves : Moves digest st after event) (issues : event.issuesAt place) :
    ∃ enrollment, after.IssuedAt place enrollment := by
  cases event with
  | issue attempt =>
    simp only [EnrollmentEvent.issuesAt,Bool.and_eq_true,decide_eq_true_eq] at issues
    obtain ⟨enrollment,issued,-⟩ := moves.bound issues.1 (by simp [IssueEvent.bound,issues.2])
    exact ⟨enrollment,issued⟩
  | _ => cases issues

def EnrollmentEvent.committedKey : EnrollmentEvent → Option String
  | .issue attempt => some attempt.publicKey
  | _ => none

def committedKeys (events : List EnrollmentEvent) : Set String := { key | key ∈ events.filterMap (·.committedKey) }

/-- Whatever requests and fetches run at the same time, every enrollment is used once. The hash of the
keys is assumed not to collide on the keys of the run. -/
theorem enrollment_used_once (digest : String → String) (authority : Option CertificateAuthority) (m : EnrollmentServer)
    (memory : m.store.backend = none) (steps : List EnrollmentStep)
    (distinct : Set.InjOn (fun key => trimSpace (digest key)) (committedKeys (m.events digest authority steps))) (place : Nat) :
    SingleUse m.store place (m.events digest authority steps) := by
  obtain ⟨enrollment,follows⟩ := exists_followsAt digest authority memory steps place
  have answered := events_answered digest authority memory steps
  have oneKey : ∀ a b, .issue a ∈ m.events digest authority steps → .issue b ∈ m.events digest authority steps →
      a.place = some place → b.place = some place → a.bound → b.bound → a.publicKey = b.publicKey := by
    intro a b aIn bIn aHere bHere aBound bBound
    apply distinct (List.mem_filterMap.mpr ⟨_,aIn,rfl⟩) (List.mem_filterMap.mpr ⟨_,bIn,rfl⟩)
    exact (follows _ aIn aHere aBound).1.symm.trans (follows _ bIn bHere bBound).1
  constructor
  case issuedOnce =>
    refine (countP_events_le_one (fun moves => moves.issues) (fun moves issued => ?_) memory).1
    obtain ⟨enrollment,issued⟩ := issued
    obtain ⟨stays,-,silent⟩ := moves.keepsIssued issued
    exact ⟨⟨enrollment,stays⟩,silent⟩
  case oneKey => exact oneKey
  case oneCertificate =>
    intro a b aIn bIn aHere bHere first second aOk bOk
    have one := (follows _ aIn aHere (answered a aIn first aOk)).2.1 first aOk
    have two := (follows _ bIn bHere (answered b bIn second bOk)).2.1 second bOk
    exact one.trans two.symm
  case carriesIssued =>
    intro a b aIn bIn aHere bHere issued answer bOk
    have certificate := (follows _ aIn aHere (by simp [IssueEvent.bound,issued])).2.2 issued
    rw [(follows _ bIn bHere (answered b bIn answer bOk)).2.1 answer bOk,← certificate]
    rfl
  case carriesStored =>
    intro enrollment listed issued b bIn bHere answer bOk
    have follows := events_follow memory ⟨listed,issued⟩ _ bIn bHere (answered b bIn answer bOk)
    rw [follows.2.1 answer bOk]
    rfl
  case othersFail =>
    intro a b aIn bIn aHere bHere aBound other
    cases answer : b.answer with
    | error failed => exact ⟨failed,rfl⟩
    | ok given => exact absurd (oneKey b a bIn aIn bHere aHere (answered b bIn given answer) aBound) other
  case consumedOnce =>
    exact (countP_events_le_one (fun moves => moves.spends) (fun moves => moves.keepsSpent) memory).1

/-- A server with one enrollment, whose token is `token` and whose ticket is `ticket`. -/
def freshServer : EnrollmentServer where
  store := { enrollments := [{ enrollmentID := "e1", agentID := "a1", tokenHash := "token", bootstrapTokenHash := "ticket"
                               status := "active" }] }

def plainSigning : Signing where
  serial := .ok 7
  parseURI := .ok
  now := 0
  createCertificate := fun _ key => .ok key
  parseCertificate := fun _ => .ok { serialNumber := 7, notAfter := none }
  encodePEM := fun der => "certificate of " ++ der

def requestFor (key : String) : EnrollmentStep :=
  .prepare { body := .ok { token := "token", csr := .valid key }, readAt := 1, signing := plainSigning, issuedAt := 2 }

/-- Two requests read the enrollment before either commits; then the first key asks again and the ticket
is tried. -/
def racingRequests : List EnrollmentStep :=
  [requestFor "k1",requestFor "k2",.commit 1 3 none,.commit 0 4 none,requestFor "k2",.commit 0 5 none,
    .fetch { ticket := "ticket", token := .ok "fresh", fetchedAt := 6, now := 6 }]

def EnrollmentEvent.result : EnrollmentEvent → Option (EnrollmentIssueResult × Option String)
  | .issue attempt => some (attempt.result,attempt.answer.toOption.map (·.certificatePEM))
  | _ => none

theorem racing_requests_one_certificate :
    (freshServer.events (fun text => text) (some ⟨"ca",""⟩) racingRequests).filterMap (·.result) =
        [(.issued,some "certificate of k2"),(.conflict,none),(.replay,some "certificate of k2")] ∧
      SingleUse freshServer.store 0 (freshServer.events (fun text => text) (some ⟨"ca",""⟩) racingRequests) := by
  have keys : (freshServer.events (fun text => text) (some ⟨"ca",""⟩) racingRequests).filterMap (·.committedKey) =
      ["k2","k1","k2"] := by decide +kernel
  refine ⟨by decide +kernel,enrollment_used_once _ _ _ rfl _ ?_ 0⟩
  have apart : ∀ a ∈ ["k2","k1","k2"], ∀ b ∈ ["k2","k1","k2"], trimSpace a = trimSpace b → a = b := by decide +kernel
  rw [committedKeys,keys]
  intro a aIn b bIn same
  exact apart a aIn b bIn same

end Runs

end SysArmor.Manager
