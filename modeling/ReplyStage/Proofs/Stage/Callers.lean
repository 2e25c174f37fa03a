import ReplyStage.Proofs.Stage.Shared
/-!
# Calls keep apart

Calls on one stage do not get in each other's way. A call to process a record that holds the lock
takes one course, `Course`, whatever the others do meanwhile: what it sends and what comes of it is
what would come of it alone. A call that closes waits for those who have a request under way, and
those after it find the connection closed.
-/

namespace ReplyStage

/-- What comes of a call with this result. -/
def Outcome.ofResult : Except StageError Record → Outcome
  | .ok r => .record r
  | .error e => .failed e

-- The phases that fixed runs come to are computed and compared.
deriving instance DecidableEq for Call
deriving instance DecidableEq for Phase

/-- Whether a call in this phase may never have held the lock: it has not come, waits or was
dropped. -/
def Phase.isOut {τ : Type} : Phase τ → Bool
  | .idle | .waiting _ | .finished .cancelled => true
  | .admitted _ | .underway _ _ | .closing _ | .finished _ => false

namespace Stage

/-- A record comes from the reply to the request that was sent, which was made of its own record. -/
theorem process_result_ok {τ : Type} {s : Stage} {headersSupported : τ → Bool}
    {respond : Sending τ → Response} {connection : Connection τ} {record : Record}
    {deadline : Option Duration} {now : Duration} {r : Record}
    (h : (s.process headersSupported respond connection record deadline now).result = .ok r) :
    ∃ sending millis reply,
      (s.process headersSupported respond connection record deadline now).sent = some sending ∧
      connection = .connected sending.transport ∧
      s.request (headersSupported sending.transport) record = .ok sending.request ∧
      respond sending = .after millis (.ok reply) ∧ reply.toRecord s.maxReplyBytes = .ok r := by
  cases hstart : s.start headersSupported connection record deadline now with
  | error e =>
    rw [process_of_start_error hstart] at h
    cases h
  | ok sending =>
    rw [process_of_start_ok hstart] at h ⊢
    obtain ⟨hc, hr, -⟩ := start_ok_iff.1 hstart
    cases hresponse : respond sending with
    | never =>
      rw [hresponse] at h
      cases h
    | after millis answer =>
      by_cases hle : millis ≤ sending.timeout.ceilMillis
      · rw [hresponse, conclude_inTime hle] at h
        cases answer with
        | error e => cases h
        | ok reply => exact ⟨sending, millis, reply, rfl, hc, hr, hresponse, h⟩
      · rw [hresponse, conclude_late (by rintro _ _ ⟨⟩; omega)] at h
        cases h

end Stage

theorem Outcome.ofResult_ne_cancelled (result : Except StageError Record) :
    Outcome.ofResult result ≠ .cancelled := by
  cases result <;> nofun

namespace Shared

variable {τ : Type} {respond : Nat → Sending τ → Response} {s s' : Shared τ} {id : Nat}
  {record : Record} {deadline : Option Duration}

/-- What would come of a record at some time, if nobody else called. -/
def alone (s : Shared τ) (respond : Nat → Sending τ → Response) (id : Nat) (record : Record)
    (deadline : Option Duration) (now : Duration) : Processed τ :=
  s.stage.process s.headersSupported (respond id) s.connection record deadline now

/-- Where a call to process a record can stand, after it came to hold the lock in the state `s`. -/
inductive Course (respond : Nat → Sending τ → Response) (s : Shared τ) (id : Nat) (record : Record)
    (deadline : Option Duration) (s' : Shared τ) : Prop
  | admitted : s'.phase id = .admitted (.process record deadline) → s'.sentBy id = [] →
      s'.connection = s.connection → Course respond s id record deadline s'
  | underway {sending now} : s'.phase id = .underway sending now → s'.sentBy id = [sending] →
      s'.connection = s.connection →
      s.stage.start s.headersSupported s.connection record deadline now = .ok sending →
      Course respond s id record deadline s'
  | finished (now : Duration) :
      s'.phase id = .finished (.ofResult (s.alone respond id record deadline now).result) →
      s'.sentBy id = (s.alone respond id record deadline now).sent.toList →
      Course respond s id record deadline s'
  | cancelled (now : Duration) : s'.phase id = .finished .cancelled →
      (s'.sentBy id = [] ∨ s'.sentBy id = (s.alone respond id record deadline now).sent.toList) →
      Course respond s id record deadline s'

/-! ## One step of the course -/

theorem alone_of_start_error (respond : Nat → Sending τ → Response) (id : Nat) {now : Duration}
    {e : StageError}
    (h : s.stage.start s.headersSupported s.connection record deadline now = .error e) :
    (s.alone respond id record deadline now).result = .error e ∧
      (s.alone respond id record deadline now).sent = none := by
  rw [alone, Stage.process_of_start_error h]
  exact ⟨rfl, rfl⟩

theorem alone_of_start_ok (respond : Nat → Sending τ → Response) (id : Nat) {now : Duration}
    {sending : Sending τ}
    (h : s.stage.start s.headersSupported s.connection record deadline now = .ok sending) :
    (s.alone respond id record deadline now).result =
        (s.stage.conclude sending (respond id sending)).2 ∧
      (s.alone respond id record deadline now).sent = some sending := by
  rw [alone, Stage.process_of_start_ok h]
  exact ⟨rfl, rfl⟩

/-- The steps of others leave a call on its course. -/
theorem Course.other {p : Phase τ} {c : Connection τ} {happened : List (Duration × Happening τ)}
    {later : Shared τ} {other : Nat} (h : Course respond s id record deadline s') (hinv : Inv s')
    (heffect : Effect respond s' other p c happened) (ht : Takes s' other p c happened later)
    (hother : id ≠ other) : Course respond s id record deadline later := by
  have hsent : later.sentBy id = s'.sentBy id := by
    rw [ht.sentBy, heffect.sends_nothing_other hother, List.append_nil]
  have hphase : (s'.phase id).awaits? = none → later.phase id = s'.phase id := by
    intro hnone
    rcases ht.phase_other hother with he | ⟨call, he, -⟩
    · exact he
    · rw [he] at hnone
      cases hnone
  have hconnection : (s'.phase id).holds? = some .shared → later.connection = s'.connection :=
    fun hholds => ht.connection.trans (hinv.connection_eq heffect hother hholds)
  cases h with
  | admitted hp hnone hc =>
    refine .admitted ?_ (hsent.trans hnone) ?_
    · rw [hphase (by rw [hp]; rfl), hp]
    · rw [hconnection (by rw [hp]; rfl), hc]
  | underway hp hone hc hstart =>
    refine .underway ?_ (hsent.trans hone) ?_ hstart
    · rw [hphase (by rw [hp]; rfl), hp]
    · rw [hconnection (by rw [hp]; rfl), hc]
  | finished now hp hall =>
    exact .finished now (by rw [hphase (by rw [hp]; rfl), hp]) (hsent.trans hall)
  | cancelled now hp hsome =>
    exact .cancelled now (by rw [hphase (by rw [hp]; rfl), hp]) (by rwa [hsent])

section Own
variable {p : Phase τ} {c : Connection τ} {happened : List (Duration × Happening τ)}

/-- A call to process a record that runs is refused or sends its request. -/
theorem Effect.of_process (h : Effect respond s id p c happened)
    (hp : s.phase id = .admitted (.process record deadline)) :
    (∃ now e, s.stage.start s.headersSupported s.connection record deadline now = .error e ∧
      p = .finished (.failed e) ∧ happened = [(now, .failed id e)]) ∨
    (∃ now sending,
      s.stage.start s.headersSupported s.connection record deadline now = .ok sending ∧
      p = .underway sending now ∧ happened = [(now, .sent id sending)]) ∨
    (p = .finished .cancelled ∧ happened = []) := by
  cases h with
  | refused hcall hstart =>
    rw [hp] at hcall
    cases hcall
    exact .inl ⟨_, _, hstart, rfl, rfl⟩
  | sends hcall hstart =>
    rw [hp] at hcall
    cases hcall
    exact .inr (.inl ⟨_, _, hstart, rfl, rfl⟩)
  | dropped _ _ => exact .inr (.inr ⟨rfl, rfl⟩)
  | closesNothing h _ | closed h | arrives _ h => rw [hp] at h; cases h
  | replied h _ | failed h _ | stores h _ | opensNothing h _ | closes h _ => rw [hp] at h; cases h

/-- A request that is under way comes to its end. -/
theorem Effect.of_underway {sending : Sending τ} {since : Duration}
    (h : Effect respond s id p c happened) (hp : s.phase id = .underway sending since) :
    (p = .finished (.ofResult (s.stage.conclude sending (respond id sending)).2) ∨
      p = .finished .cancelled) ∧ (happened.filterMap fun h => h.2.sentBy? id) = [] := by
  cases h with
  | replied hunder hr =>
    rw [hp] at hunder
    cases hunder
    exact ⟨.inl (by rw [hr]; rfl), rfl⟩
  | failed hunder hr =>
    rw [hp] at hunder
    cases hunder
    exact ⟨.inl (by rw [hr]; rfl), rfl⟩
  | dropped _ _ => exact ⟨.inr rfl, rfl⟩
  | closesNothing h _ | closed h | arrives _ h => rw [hp] at h; cases h
  | refused h _ | sends h _ | stores h _ | opensNothing h _ | closes h _ => rw [hp] at h; cases h

/-- A call that has ended takes no step. -/
theorem Effect.not_finished {outcome : Outcome} (h : Effect respond s id p c happened) :
    s.phase id ≠ .finished outcome := by
  intro hp
  cases h with
  | dropped hend _ => exact hend outcome hp
  | closesNothing h _ | closed h | arrives _ h => rw [hp] at h; cases h
  | refused h _ | sends h _ | replied h _ | failed h _ | stores h _ | opensNothing h _
  | closes h _ => rw [hp] at h; cases h

/-- The steps of a call take it along its course. -/
theorem Course.own {later : Shared τ} (h : Course respond s id record deadline s')
    (hstage : s'.stage = s.stage) (hsupport : s'.headersSupported = s.headersSupported)
    (heffect : Effect respond s' id p c happened) (ht : Takes s' id p c happened later) :
    Course respond s id record deadline later := by
  have hsent := ht.sentBy id
  cases h with
  | admitted hp hnone hc =>
    rw [hnone, List.nil_append] at hsent
    rcases heffect.of_process hp with
      ⟨now, e, hstart, rfl, rfl⟩ | ⟨now, sending, hstart, rfl, rfl⟩ | ⟨rfl, rfl⟩
    · rw [hstage, hsupport, hc] at hstart
      obtain ⟨hresult, hsentAlone⟩ := alone_of_start_error respond id hstart
      refine .finished now ?_ ?_
      · rw [hresult]
        exact ht.phase_self rfl
      · rw [hsentAlone]
        exact hsent
    · rw [hstage, hsupport, hc] at hstart
      have hconnection : later.connection = s'.connection :=
        ht.connection.trans (heffect.connection_eq.resolve_right (by rw [hp]; nofun))
      have hone : later.sentBy id = [sending] := by
        rw [hsent]
        simp [Happening.sentBy?]
      exact .underway (ht.phase_self rfl) hone (hconnection.trans hc) hstart
    · exact .cancelled .zero (ht.phase_self rfl) (.inl hsent)
  | @underway sending now hp hone hc hstart =>
    obtain ⟨hend, hnothing⟩ := heffect.of_underway hp
    rw [hone, hnothing, List.append_nil] at hsent
    obtain ⟨hresult, hsentAlone⟩ := alone_of_start_ok respond id hstart
    rw [hstage] at hend
    rcases hend with rfl | rfl
    · refine .finished now ?_ ?_
      · rw [hresult]
        exact ht.phase_self rfl
      · rw [hsentAlone]
        exact hsent
    · refine .cancelled now (ht.phase_self rfl) (.inr ?_)
      rw [hsentAlone]
      exact hsent
  | finished now hp _ => exact absurd hp heffect.not_finished
  | cancelled now hp _ => exact absurd hp heffect.not_finished

/-- A call that did not come to hold the lock comes to wait or is dropped. -/
theorem Effect.of_isOut (h : Effect respond s id p c happened)
    (hout : (s.phase id).isOut = true) : p.isOut = true ∧ happened = [] := by
  cases h with
  | arrives _ _ => exact ⟨rfl, rfl⟩
  | dropped _ _ => exact ⟨rfl, rfl⟩
  | closesNothing h _ | closed h => rw [h] at hout; cases hout
  | refused h _ | sends h _ | replied h _ | failed h _ | stores h _ | opensNothing h _
  | closes h _ => rw [h] at hout; cases hout

end Own

/-! ## The whole course -/

/-- A call that holds the lock is on its course ever after. -/
theorem Inv.course {later : Shared τ} (h : Inv s)
    (hcall : s.phase id = .admitted (.process record deadline)) (hreach : Reaches respond s later) :
    Course respond s id record deadline later := by
  induction hreach with
  | refl => exact .admitted hcall (h.unsent id (by rw [hcall]; rfl)) rfl
  | @tail mid later hreach hstep ih =>
    obtain ⟨other, hstep⟩ := hstep
    obtain ⟨p, c, happened, heffect, ht⟩ := effect_of_step hstep
    obtain ⟨hstage, hsupport⟩ := Reaches.stage_eq hreach
    by_cases hother : id = other
    · subst hother
      exact ih.own hstage hsupport heffect ht
    · exact ih.other (h.reaches hreach) heffect ht hother

/-- A request that is under way comes to its end with the next step of its call. -/
theorem phase_settle {sending : Sending τ} {since now : Duration}
    (hunder : s.phase id = .underway sending since) (result : Except StageError Record) :
    (s.settle id now result).1.phase id = .finished (.ofResult result) := by
  simp only [settle, hunder]
  cases result with
  | ok r => exact (takes_finish _ _ _).phase_self rfl
  | error e => exact (takes_finish _ _ _).phase_self rfl

/-- A call with a request under way ends by itself. -/
theorem exists_ending_of_underway (respond : Nat → Sending τ → Response) {sending : Sending τ}
    {since : Duration}
    (hunder : s.phase id = .underway sending since) :
    ∃ last, Relation.ReflTransGen (Step respond id) s last ∧ last.phase id =
      .finished (.ofResult (s.stage.conclude sending (respond id sending)).2) :=
  ⟨_, .single (.settle since hunder), phase_settle hunder _⟩

/-- A call to process a record that holds the lock ends by itself, as it would alone. -/
theorem exists_ending_of_admitted (respond : Nat → Sending τ → Response)
    (hcall : s.phase id = .admitted (.process record deadline))
    (now : Duration) :
    ∃ last, Relation.ReflTransGen (Step respond id) s last ∧
      last.phase id = .finished (.ofResult (s.alone respond id record deadline now).result) := by
  have hstep : Step respond id s (s.run id now).1 := .run now hcall
  cases hstart : s.stage.start s.headersSupported s.connection record deadline now with
  | error e =>
    refine ⟨_, .single hstep, ?_⟩
    rw [(alone_of_start_error respond id hstart).1]
    exact (takes_run_refused hcall hstart).phase_self rfl
  | ok sending =>
    have ht := takes_run_sends hcall hstart
    obtain ⟨last, hlast, hphase⟩ :=
      exists_ending_of_underway respond (ht.phase_self rfl)
    refine ⟨last, .head hstep hlast, ?_⟩
    rw [hphase, ht.stage, (alone_of_start_ok respond id hstart).1]

/-- A call on its course that has not ended ends by itself, as it would alone. -/
theorem Course.exists_ending (h : Course respond s id record deadline s')
    (hstage : s'.stage = s.stage) (hsupport : s'.headersSupported = s.headersSupported) :
    (∃ outcome, s'.phase id = .finished outcome) ∨
      ∃ now last, Relation.ReflTransGen (Step respond id) s' last ∧
        last.phase id = .finished (.ofResult (s.alone respond id record deadline now).result) := by
  cases h with
  | admitted hp _ hc =>
    obtain ⟨last, hlast, hphase⟩ := exists_ending_of_admitted respond hp .zero
    refine .inr ⟨.zero, last, hlast, ?_⟩
    rw [hphase, alone, alone, hstage, hsupport, hc]
  | @underway sending now hp _ _ hstart =>
    obtain ⟨last, hlast, hphase⟩ := exists_ending_of_underway respond hp
    refine .inr ⟨now, last, hlast, ?_⟩
    rw [hphase, hstage, (alone_of_start_ok respond id hstart).1]
  | finished now hp _ => exact .inl ⟨_, hp⟩
  | cancelled now hp _ => exact .inl ⟨_, hp⟩

theorem phase_endClose {transport : τ} (hclosing : s.phase id = .closing transport) :
    (s.endClose id).1.phase id = .finished .done := by
  simp only [endClose, hclosing]
  exact (takes_finish_silent _ _).phase_self rfl

/-- A call that closes the stage ends by itself. -/
theorem exists_ending_of_close (respond : Nat → Sending τ → Response)
    (hcall : s.phase id = .admitted .close) :
    ∃ last, Relation.ReflTransGen (Step respond id) s last ∧ last.phase id = .finished .done := by
  have hstep : Step respond id s (s.run id .zero).1 := .run .zero hcall
  cases hheld : s.connection.held? with
  | none => exact ⟨_, .single hstep, (takes_run_closesNothing hcall hheld).phase_self rfl⟩
  | some transport =>
    have hclosing : (s.run id .zero).1.phase id = .closing transport :=
      (takes_run_close hcall (Connection.held?_eq_some_iff.1 hheld)).phase_self rfl
    exact ⟨_, .tail (.single hstep) (.endClose hclosing), phase_endClose hclosing⟩

/-- A call that stores a transport ends by itself. -/
theorem exists_ending_of_connect (respond : Nat → Sending τ → Response)
    {opened : Except StageError τ} (hcall : s.phase id = .admitted (.connect opened)) :
    ∃ last outcome, Relation.ReflTransGen (Step respond id) s last ∧
      last.phase id = .finished outcome ∧ outcome ≠ .cancelled := by
  have hstep : Step respond id s (s.run id .zero).1 := .run .zero hcall
  cases hopened : s.connection.connect opened with
  | error e =>
    refine ⟨_, .failed e, .single hstep, ?_, nofun⟩
    exact (takes_run_opensNothing hcall hopened).phase_self rfl
  | ok connection =>
    refine ⟨_, .done, .single hstep, ?_, nofun⟩
    exact (takes_run_stores hcall hopened).phase_self rfl

/-- A call that holds the lock ends by itself. -/
theorem exists_ending_of_holds (respond : Nat → Sending τ → Response) {access : Access}
    (h : (s.phase id).holds? = some access) :
    ∃ last outcome, Relation.ReflTransGen (Step respond id) s last ∧
      last.phase id = .finished outcome ∧ outcome ≠ .cancelled := by
  cases hp : s.phase id with
  | admitted call =>
    cases call with
    | process record deadline =>
      obtain ⟨last, hlast, hphase⟩ := exists_ending_of_admitted respond hp .zero
      exact ⟨last, _, hlast, hphase, Outcome.ofResult_ne_cancelled _⟩
    | connect opened => exact exists_ending_of_connect respond hp
    | close =>
      obtain ⟨last, hlast, hphase⟩ := exists_ending_of_close respond hp
      exact ⟨last, .done, hlast, hphase, nofun⟩
  | underway sending since =>
    obtain ⟨last, hlast, hphase⟩ := exists_ending_of_underway respond hp
    exact ⟨last, _, hlast, hphase, Outcome.ofResult_ne_cancelled _⟩
  | closing transport => exact ⟨_, .done, .single (.endClose hp), phase_endClose hp, nofun⟩
  | idle | waiting _ | finished _ => rw [hp] at h; cases h

/-- Whoever is past the queue once came to hold the lock; whoever is not has sent nothing. -/
theorem Reaches.admission {stage : Stage} {headersSupported : τ → Bool}
    {connection : Connection τ}
    (h : Reaches respond (begin stage headersSupported connection) s) (id : Nat) :
    ((s.phase id).isOut = true ∧ s.sentBy id = []) ∨
      ∃ m call, Reaches respond (begin stage headersSupported connection) m ∧
        m.phase id = .admitted call ∧ Reaches respond m s := by
  induction h with
  | refl => exact .inl ⟨rfl, rfl⟩
  | @tail s later hreach hstep ih =>
    obtain ⟨other, hstep⟩ := hstep
    rcases ih with ⟨hout, hnone⟩ | ⟨m, call, hm, hcall, hlater⟩
    · obtain ⟨p, c, happened, heffect, ht⟩ := effect_of_step hstep
      have hphase : (move s.phase other p id).isOut = true ∧ later.sentBy id = [] := by
        rw [ht.sentBy, hnone, List.nil_append]
        by_cases hid : id = other
        · subst hid
          obtain ⟨hp, hhappened⟩ := heffect.of_isOut hout
          exact ⟨by rwa [move_self], by rw [hhappened]; rfl⟩
        · exact ⟨by rwa [move_of_ne hid], heffect.sends_nothing_other hid⟩
      rcases ht.phase id with he | ⟨call, -, he⟩
      · exact .inl ⟨by rw [he]; exact hphase.1, hphase.2⟩
      · exact .inr ⟨later, call, hreach.tail ⟨other, hstep⟩, he, .refl⟩
    · exact .inr ⟨m, call, hm, hcall, hlater.tail ⟨other, hstep⟩⟩

/-- A call that gives a record has come to what it would alone. -/
theorem Course.finished_record {r : Record} (h : Course respond s id record deadline s')
    (hr : s'.phase id = .finished (.record r)) :
    ∃ now, (s.alone respond id record deadline now).result = .ok r ∧
      s'.sentBy id = (s.alone respond id record deadline now).sent.toList := by
  cases h with
  | finished now hp hsent =>
    rw [hp] at hr
    refine ⟨now, ?_, hsent⟩
    cases hresult : (s.alone respond id record deadline now).result with
    | ok r' =>
      rw [hresult] at hr
      cases hr
      rfl
    | error e =>
      rw [hresult] at hr
      cases hr
  | admitted hp _ _ | underway hp _ _ _ | cancelled _ hp _ => rw [hp] at hr; cases hr

/-- Over a closed connection a call sends nothing and fails. -/
theorem Course.of_closed (h : Course respond s id record deadline s')
    (hclosed : s.connection = .closed) :
    s'.sentBy id = [] ∧ ∀ outcome, s'.phase id = .finished outcome →
      outcome = .failed .closed ∨ outcome = .cancelled := by
  have hstart : ∀ now,
      s.stage.start s.headersSupported s.connection record deadline now = .error .closed :=
    fun now => Stage.start_closed (by rw [hclosed]; nofun)
  cases h with
  | admitted hp hnone _ => exact ⟨hnone, fun _ ho => by rw [hp] at ho; cases ho⟩
  | underway hp hone _ hok =>
    rw [hstart] at hok
    cases hok
  | finished now hp hsent =>
    obtain ⟨hresult, hnone⟩ := alone_of_start_error respond id (hstart now)
    rw [hnone] at hsent
    rw [hresult] at hp
    exact ⟨hsent, fun _ ho => .inl (by rw [hp] at ho; cases ho; rfl)⟩
  | cancelled now hp hsent =>
    rw [(alone_of_start_error respond id (hstart now)).2] at hsent
    exact ⟨or_self_iff.1 hsent, fun _ ho => .inr (by rw [hp] at ho; cases ho; rfl)⟩

/-! ## Any calls on one stage -/

/-- Calls on one stage keep apart, in whatever order their steps come. -/
theorem calls_keep_apart {stage : Stage} {headersSupported : τ → Bool} {connection : Connection τ}
    (reached : Reaches respond (begin stage headersSupported connection) s) :
    -- A transport begins to be closed while it is the connection and no request is under way. From
    -- then on none ever is, and nothing is sent any more.
    (∀ id s' now transport, Step respond id s s' →
      s'.history = s.history ++ [(now, .released id transport)] →
      s.connection = .connected transport ∧ s.Quiet ∧
      ∀ later, Reaches respond s' later → later.Quiet ∧ ∀ i, later.sentBy i = s.sentBy i) ∧
    -- A call that runs `close` begins to close the connection, which stays closed for good.
    (∀ id now, s.phase id = .admitted .close →
      (∀ transport, s.connection = .connected transport →
        (s.run id now).1.history = s.history ++ [(now, .released id transport)]) ∧
      ∀ later, Reaches respond (s.run id now).1 later → later.connection = .closed) ∧
    -- Nobody waits for a lock that nobody holds, and whoever holds it ends by itself.
    (∀ id call, s.phase id = .waiting call →
      ∃ other access, (s.phase other).holds? = some access) ∧
    (∀ id access, (s.phase id).holds? = some access →
      ∃ last outcome, Relation.ReflTransGen (Step respond id) s last ∧
        last.phase id = .finished outcome ∧ outcome ≠ .cancelled) ∧
    -- Whoever never came to hold the lock has sent nothing.
    (∀ id, ((s.phase id).isOut = true ∧ s.sentBy id = []) ∨
      ∃ m call, Reaches respond (begin stage headersSupported connection) m ∧
        m.phase id = .admitted call ∧ Reaches respond m s) ∧
    (∀ id record deadline, s.phase id = .admitted (.process record deadline) →
      ∀ later, Reaches respond s later →
        -- A call to process a record that holds the lock sends and comes to what it would alone,
        Course respond s id record deadline later ∧
        -- and needs nobody else for it.
        ((∃ outcome, later.phase id = .finished outcome) ∨
          ∃ now last, Relation.ReflTransGen (Step respond id) later last ∧ last.phase id =
            .finished (.ofResult (s.alone respond id record deadline now).result)) ∧
        -- A record that it gives is made of the reply to the one message it sent, its own.
        (∀ r, later.phase id = .finished (.record r) → ∃ sending millis reply,
          later.sentBy id = [sending] ∧ s.connection = .connected sending.transport ∧
          stage.request (headersSupported sending.transport) record = .ok sending.request ∧
          respond id sending = .after millis (.ok reply) ∧
          reply.toRecord stage.maxReplyBytes = .ok r) ∧
        -- Over a closed connection it sends nothing, and fails with that unless it is dropped.
        (s.connection = .closed → later.sentBy id = [] ∧
          ∀ outcome, later.phase id = .finished outcome →
            outcome = .failed .closed ∨ outcome = .cancelled)) := by
  have hinv : Inv s := (inv_begin stage headersSupported connection).reaches reached
  refine ⟨fun id s' now transport hstep hnoted => ?_, fun id now hcall => ⟨?_, ?_⟩,
    fun id call => hinv.exists_holder, fun id access => exists_ending_of_holds respond,
    fun id => Reaches.admission reached id, fun id record deadline hcall later hlater => ?_⟩
  · obtain ⟨hcall, hc, hclosed⟩ := effect_of_released hstep hnoted
    refine ⟨hc, hinv.quiet_of_exclusive (by rw [hcall]; rfl), fun later hlater => ?_⟩
    obtain ⟨hlaterClosed, hsent⟩ := Reaches.stays_closed hlater hclosed
    refine ⟨((hinv.step hstep).reaches hlater).quiet hlaterClosed, fun i => ?_⟩
    rw [hsent, sentBy, hnoted, List.filterMap_append]
    exact List.append_nil _
  · exact fun transport hc => (takes_run_close hcall hc).history
  · exact fun later hlater => (Reaches.stays_closed hlater (connection_run_close hcall)).1
  · have hcourse := hinv.course hcall hlater
    obtain ⟨hstage, hsupport⟩ := Reaches.stage_eq hlater
    obtain ⟨hstage₀, hsupport₀⟩ := Reaches.stage_eq reached
    refine ⟨hcourse, hcourse.exists_ending hstage hsupport, fun r hr => ?_, fun hclosed => ?_⟩
    · obtain ⟨now, hresult, hsent⟩ := hcourse.finished_record hr
      obtain ⟨sending, millis, reply, hone, hc, hrequest, hresponse, hreply⟩ :=
        Stage.process_result_ok hresult
      rw [hstage₀] at hrequest hreply
      rw [hsupport₀] at hrequest
      rw [alone, hone] at hsent
      exact ⟨sending, millis, reply, hsent, hc, hrequest, hresponse, hreply⟩
    · exact hcourse.of_closed hclosed

/-- A step of a call whose request comes to a known result. -/
theorem Step.settled {sending : Sending τ} {since : Duration} {result : Except StageError Record}
    (now : Duration) (hunder : s.phase id = .underway sending since)
    (hresult : (s.stage.conclude sending (respond id sending)).2 = result) :
    Step respond id s (s.settle id now result).1 := by
  subst hresult
  exact .settle now hunder

/-- For instance, a stage that sends every record to one subject. -/
def toOrders : Stage where
  label := defaultName
  subject := ⟨"orders", [.literal "orders"]⟩
  headers := { templates := [], filter := {} }
  timeout := ⟨3000000000⟩
  maxReplyBytes := none

/-- For instance, replies that end with the number of the call. -/
def numbered (id : Nat) (sending : Sending Unit) : Response :=
  .after 20 (.ok { subject := "_INBOX", payload := sending.request.payload ++ [id.toUInt8] })

/-- Two records are under way when a call comes to close the stage. It waits until both have come to
their own replies, the second one first, and nothing is sent after it. -/
theorem calls_keep_apart_close_behind_two :
    let come := (((begin toOrders (fun _ => false) (.connected ())).arrive 0
      (.process (.ofPayload [0x41]) none)).1.arrive 1 (.process (.ofPayload [0x42]) none)).1
    let waits := (come.arrive 2 .close).1
    let sent := ((waits.run 0 ⟨0⟩).1.run 1 ⟨0⟩).1
    let reply := fun payload : Bytes => (Record.ofPayload payload).set "nats_subject" "_INBOX"
    let answered := ((sent.settle 1 ⟨20⟩ (.ok (reply [0x42, 1]))).1.settle 0 ⟨20⟩
      (.ok (reply [0x41, 0]))).1
    Reaches numbered (begin toOrders (fun _ => false) (.connected ())) answered ∧
      waits.phase 2 = .waiting .close ∧ answered.phase 2 = .admitted .close ∧
      answered.connection = .connected () ∧ answered.Quiet ∧
      (∀ later, Reaches numbered (answered.run 2 ⟨20⟩).1 later →
        later.Quiet ∧ ∀ i, later.sentBy i = answered.sentBy i) ∧
      answered.phase 0 = .finished (.record (reply [0x41, 0])) ∧
      ∃ sending, answered.sentBy 0 = [sending] ∧ sending.request.payload = [0x41] := by
  intro come waits sent reply answered
  have reached : Reaches numbered (begin toOrders (fun _ => false) (.connected ())) waits :=
    ((Relation.ReflTransGen.single ⟨0, .arrive _ rfl⟩).tail ⟨1, .arrive _ rfl⟩).tail
      ⟨2, .arrive _ rfl⟩
  have sends : Reaches numbered waits sent :=
    (Relation.ReflTransGen.single ⟨0, .run ⟨0⟩ rfl⟩).tail ⟨1, .run ⟨0⟩ rfl⟩
  have settles : Reaches numbered sent answered := by
    have one : sent.phase 1 =
      .underway ⟨(), ⟨"orders", [0x42], none⟩, ⟨3000000000⟩⟩ ⟨0⟩ := by decide +kernel
    have zero : (sent.settle 1 ⟨20⟩ (.ok (reply [0x42, 1]))).1.phase 0 =
      .underway ⟨(), ⟨"orders", [0x41], none⟩, ⟨3000000000⟩⟩ ⟨0⟩ := by decide +kernel
    refine (Relation.ReflTransGen.single ⟨1, .settled ⟨20⟩ one ?_⟩).tail ⟨0, .settled ⟨20⟩ zero ?_⟩
    · exact ok_of_toOption (by decide +kernel)
    · exact ok_of_toOption (by decide +kernel)
  have close : answered.phase 2 = .admitted .close := by decide +kernel
  have stillOpen : answered.connection = .connected () := by decide +kernel
  have all := (reached.trans sends).trans settles
  obtain ⟨hclose, hrun, -⟩ := calls_keep_apart all
  have noted := (hrun 2 ⟨20⟩ close).1 () stillOpen
  obtain ⟨connected, quiet, later⟩ := hclose 2 _ ⟨20⟩ () (.run ⟨20⟩ close) noted
  have first : waits.phase 0 = .admitted (.process (.ofPayload [0x41]) none) := by decide +kernel
  have ended : answered.phase 0 = .finished (.record (reply [0x41, 0])) := by decide +kernel
  obtain ⟨-, -, -, -, -, hprocess⟩ := calls_keep_apart reached
  obtain ⟨-, -, hrecord, -⟩ :=
    hprocess 0 (.ofPayload [0x41]) none first answered (sends.trans settles)
  obtain ⟨sending, _, _, hone, -, hrequest, -⟩ := hrecord _ ended
  exact ⟨all, by decide +kernel, close, connected, quiet, later, ended, sending, hone,
    (Stage.request_ok_iff.1 hrequest).2.1⟩

end Shared
end ReplyStage
