import Mathlib.Data.ENat.Lattice
import RecordWatch.Proofs.Client.Exchange

/-! How often a request is sent. The first answer that may not pass settles it, and the patience of
the client bounds how many are heard before that; between two attempts there is one pause. A request
that cannot be sent never reaches the wire, but each attempt fails as one that got lost would, so it
is tried until the patience is at its end. -/

namespace RecordWatch

open scoped Stream'

namespace Answer

/-- The position, counted from one, of the first answer that may not pass; infinite if all may. -/
noncomputable def firstFinal (answers : Stream' Answer) : ℕ∞ :=
  ⨅ i ∈ {i : ℕ | ¬(answers.get i).Transient}, (i : ℕ∞) + 1

variable {failures : List Answer} {answer : Answer} {rest : Stream' Answer}

theorem get_append_length : (failures ++ₛ answer :: rest).get failures.length = answer := by
  induction failures with
  | nil => rfl
  | cons failure failures ih => exact ih

theorem drop_append_length :
    (failures ++ₛ answer :: rest).drop (failures.length + 1) = rest := by
  induction failures with
  | nil => rfl
  | cons failure failures ih => exact ih

theorem transient_get_append (h : ∀ failure ∈ failures, failure.Transient) {i : ℕ}
    (hi : i < failures.length) : ((failures ++ₛ rest).get i).Transient := by
  induction failures generalizing i with
  | nil => simp at hi
  | cons failure failures ih =>
    obtain ⟨hfailure, hfailures⟩ := List.forall_mem_cons.mp h
    cases i with
    | zero => exact hfailure
    | succ i => exact ih hfailures (by simpa using hi)

theorem le_firstFinal (h : ∀ failure ∈ failures, failure.Transient) :
    (failures.length : ℕ∞) + 1 ≤ firstFinal (failures ++ₛ rest) := by
  refine le_iInf₂ fun i hi => ?_
  have hlength : failures.length ≤ i := by
    by_contra hlt
    exact hi (transient_get_append h (by omega))
  gcongr

theorem firstFinal_append (h : ∀ failure ∈ failures, failure.Transient)
    (hfinal : ¬answer.Transient) :
    firstFinal (failures ++ₛ answer :: rest) = failures.length + 1 := by
  refine le_antisymm (iInf₂_le failures.length ?_) (le_firstFinal h)
  rwa [Set.mem_ofPred_eq, get_append_length]

end Answer

namespace Client

variable {σ : Type} {client : Client (StateM σ)} {wire : σ → Wire} {pauses : σ → ℕ}

/-- As many answers are heard of a request as it takes to the first that may not pass, or as the
patience allows. -/
theorem Settles.length_add_one {patience : ℕ} {failures : List Answer} {answer : Answer}
    (h : Settles patience failures answer) (rest : Stream' Answer) :
    (failures.length : ℕ∞) + 1 =
      min (Answer.firstFinal (failures ++ₛ answer :: rest)) (patience + 1) := by
  have hpatient : failures.length ≤ patience := h.patient
  by_cases hlast : answer.Transient
  · have hlength : failures.length = patience := by
      by_contra hne
      exact h.final (by omega) hlast
    rw [← hlength, min_eq_right (Answer.le_firstFinal h.transient)]
  · have hbound : (failures.length : ℕ∞) + 1 ≤ patience + 1 := by gcongr
    rw [Answer.firstFinal_append h.transient hlast, min_eq_left hbound]

/-- The client talks over the wire, and its pauses before another attempt are counted. -/
structure PacesOver (client : Client (StateM σ)) (wire : σ → Wire) (pauses : σ → ℕ) : Prop extends
    client.TalksOver wire where
  pauses_transport : ∀ request s, pauses (client.transport request s).2 = pauses s
  pauses_log : ∀ event s, pauses (client.log event s).2 = pauses s
  pauses_waitForRetry : ∀ s, pauses (client.waitForRetry s).2 = pauses s + 1

theorem PacesOver.pauses_pause (hp : client.PacesOver wire pauses) (event : Event) (s : σ) :
    pauses (client.waitForRetry (client.log event s).2).2 = pauses s + 1 := by
  rw [hp.pauses_waitForRetry, hp.pauses_log]

/-- An attempt takes no pause. -/
theorem PacesOver.pauses_attempt (hp : client.PacesOver wire pauses) (request : HttpRequest)
    (s : σ) : pauses (client.attempt request s).2 = pauses s := by
  cases hprep : request.prepare? with
  | none => rw [attempt_unsent hprep]
  | some prepared =>
    obtain ⟨s', hs, -⟩ := hp.transport prepared s
    have hpauses := hp.pauses_transport prepared s
    rw [hs] at hpauses
    rw [attempt, HttpRequest.send, hprep]
    dsimp only
    rw [bind_assoc, bind_run hs]
    cases (wire s).pending.head with
    | error reason => exact hpauses
    | ok response =>
      dsimp only
      cases response.received? with
      | none => exact hpauses
      | some response =>
        dsimp only
        split
        · rw [pure_bind]
          dsimp only
          cases Json.ofText? response.body <;> exact hpauses
        · exact hpauses

/-- There is one pause for each failure that is followed by another attempt. -/
theorem PacesOver.pauses_attempts (hp : client.PacesOver wire pauses) {request : HttpRequest}
    {prepared : PreparedRequest} (hprep : request.prepare? = some prepared) {left : ℕ}
    {failures : List Answer} {answer : Answer} (h : Settles left failures answer)
    {rest : Stream' Answer} {s : σ} (hs : (wire s).pending = failures ++ₛ answer :: rest) :
    pauses (client.attempts request left s).2 = pauses s + failures.length := by
  induction failures generalizing left s with
  | nil =>
    obtain ⟨s', hs', -⟩ := hp.attempt_run hprep s
    have hpauses := hp.pauses_attempt request s
    rw [hs'] at hpauses
    rw [hs, Stream'.nil_append_stream, Stream'.head_cons] at hs'
    rw [attempts_settled hs' fun hlt error herror => h.not_retryable hlt herror]
    exact hpauses
  | cons failure failures ih =>
    obtain ⟨left, rfl⟩ : ∃ n, left = n + 1 :=
      Nat.exists_eq_add_one.mpr (Nat.lt_of_lt_of_le (Nat.succ_pos _) h.patient)
    obtain ⟨s₁, hs₁, hw₁⟩ := hp.attempt_run hprep s
    have hpauses := hp.pauses_attempt request s
    rw [hs₁] at hpauses
    rw [hs, Stream'.cons_append_stream, Stream'.head_cons] at hs₁
    rw [hs, Stream'.cons_append_stream, Stream'.tail_cons] at hw₁
    obtain ⟨error, houtcome, hretry⟩ := h.head_retryable request.url
    rw [houtcome] at hs₁
    rw [attempts_again hs₁ hretry, ih h.rest (by rw [hp.pause, hw₁]), hp.pauses_pause, hpauses]
    simp only [List.length_cons]
    omega

/-- A request that cannot be sent is tried until the patience is at its end. -/
theorem PacesOver.unsent_attempts (hp : client.PacesOver wire pauses) {request : HttpRequest}
    (hprep : request.prepare? = none) (left : ℕ) (s : σ) :
    wire (client.attempts request left s).2 = wire s ∧
      pauses (client.attempts request left s).2 = pauses s + left := by
  induction left generalizing s with
  | zero =>
    rw [attempts, attempt_unsent hprep s]
    exact ⟨rfl, rfl⟩
  | succ left ih =>
    rw [attempts_again (attempt_unsent hprep s) rfl]
    obtain ⟨hwire, hpauses⟩ := ih _
    rw [hwire, hpauses, hp.pause, hp.pauses_pause]
    exact ⟨rfl, by omega⟩

/-- A request that can be sent goes out as often as it takes to the first answer that may not pass,
but at most once more than there are retries; each time it is the same request, and the last answer
is what comes of it. One that cannot be sent fails as if each attempt had got lost. -/
theorem send_until_final (hp : client.PacesOver wire pauses) (method url : String)
    (query : List (String × String)) (body : Option Json) (s : σ) :
    (∀ target, client.Reaches url target → ∃ (retries : ℕ) (s' : σ),
      (retries : ℕ∞) + 1 = min (Answer.firstFinal (wire s).pending) (client.maxRetries + 1) ∧
        client.send method url query body s =
          (((wire s).pending.get retries).outcome url, s') ∧
        wire s' = ⟨(wire s).pending.drop (retries + 1), (wire s).received ++
          List.replicate (retries + 1) (client.arrival method target query body)⟩ ∧
        pauses s' = pauses s + retries) ∧
    ((¬∃ target, client.Reaches url target) → ∃ s' : σ,
      client.send method url query body s =
          (.error (.transport url "the request cannot be sent"), s') ∧
        wire s' = wire s ∧ pauses s' = pauses s + client.maxRetries) := by
  constructor
  · intro target hr
    obtain ⟨failures, answer, rest, hs, h⟩ := exists_settles client.maxRetries (wire s).pending
    obtain ⟨s', hs', hw⟩ := hp.send_run hr h method query body hs
    have hpauses := hp.pauses_attempts (prepare?_request hr method query body) h hs
    refine ⟨failures.length, s', ?_, ?_, ?_, ?_⟩
    · rw [hs]
      exact h.length_add_one rest
    · rw [hs, Answer.get_append_length]
      exact hs'
    · rw [hw, hs, Answer.drop_append_length]
    · rw [← send, hs'] at hpauses
      exact hpauses
  · intro hr
    obtain ⟨hwire, hpauses⟩ :=
      hp.unsent_attempts (prepare?_eq_none hr method query body) client.maxRetries s
    exact ⟨_, Prod.ext (send_unsent hr method query body s) rfl, hwire, hpauses⟩

/-! ### A client whose pauses are counted -/

/-- A step beside a count, to which it adds. -/
def counting {α : Type} (pauses : ℕ) (step : StateM σ α) : StateM (σ × ℕ) α :=
  fun s => ((step s.1).1, (step s.1).2, s.2 + pauses)

/-- The client beside a count of its pauses before another attempt. -/
def counted (client : Client (StateM σ)) : Client (StateM (σ × ℕ)) where
  transport request := counting 0 (client.transport request)
  log event := counting 0 (client.log event)
  waitForRetry := counting 1 client.waitForRetry
  waitForPage := counting 0 client.waitForPage
  baseUrl := client.baseUrl
  token := client.token
  version := client.version
  pageSize := client.pageSize
  maxRetries := client.maxRetries
  maxPages := client.maxPages

/-- The pauses of every client that talks over a wire can be counted. -/
theorem TalksOver.pacesOver (ht : client.TalksOver wire) :
    client.counted.PacesOver (fun s => wire s.1) Prod.snd where
  transport request s := by
    obtain ⟨s', hs, hw⟩ := ht.transport request s.1
    refine ⟨(s', s.2), ?_, hw⟩
    dsimp only [counted, counting]
    rw [hs]
    rfl
  log event s := ht.log event s.1
  waitForRetry s := ht.waitForRetry s.1
  waitForPage s := ht.waitForPage s.1
  pauses_transport _ _ := rfl
  pauses_log _ _ := rfl
  pauses_waitForRetry _ := rfl

/-- A client at the end of a wire that tries again up to five times. -/
def patient : Client (StateM Wire) := { wired with maxRetries := 5 }

theorem talksOver_patient : patient.TalksOver id :=
  ⟨talksOver_wired.transport, talksOver_wired.log, talksOver_wired.waitForRetry,
    talksOver_wired.waitForPage⟩

theorem reaches_patient :
    patient.counted.Reaches "http://[::1]/databases/c1/query" collectionTarget :=
  ⟨reaches_collection.target, reaches_collection.token, reaches_collection.version⟩

/-- Three failures that may pass, before an answer that may not. -/
def outage : List Answer := [.error "closed", .ok ⟨503, "busy"⟩, .ok ⟨429, "later"⟩]

/-- The fourth request is the last, although the client would send six; where nothing can be sent,
it pauses five times all the same. -/
theorem send_until_final_gone :
    patient.counted.PacesOver Prod.fst Prod.snd ∧
      patient.counted.send "GET" "http://[::1]/databases/c1/query" [] none
          (⟨outage ++ₛ .ok ⟨404, "gone"⟩ :: .const (.error "closed"), []⟩, 0) =
        (.error (.status "http://[::1]/databases/c1/query" 404 "gone"),
          ⟨.const (.error "closed"),
            List.replicate 4 (patient.counted.arrival "GET" collectionTarget [] none)⟩, 3) ∧
      patient.counted.send "GET" "databases" [] none (⟨.const (.error "closed"), []⟩, 0) =
        (.error (.transport "databases" "the request cannot be sent"),
          ⟨.const (.error "closed"), []⟩, 5) := by
  have hp : patient.counted.PacesOver Prod.fst Prod.snd := talksOver_patient.pacesOver
  refine ⟨hp, ?_, ?_⟩
  · obtain ⟨retries, s', hretries, hs, hw, hpauses⟩ :=
      (send_until_final hp "GET" "http://[::1]/databases/c1/query" [] none
        (⟨outage ++ₛ .ok ⟨404, "gone"⟩ :: .const (.error "closed"), []⟩, 0)).1 _ reaches_patient
    have hsettles : Settles 5 outage (.ok ⟨404, "gone"⟩) := ⟨by decide, by decide, by decide⟩
    have hlength : retries + 1 = outage.length + 1 := by
      exact_mod_cast hretries.trans (hsettles.length_add_one _).symm
    obtain rfl : retries = 3 := Nat.succ.inj hlength
    rw [hs]
    exact Prod.ext rfl (Prod.ext hw hpauses)
  · have hunsent : ¬∃ target, patient.counted.Reaches "databases" target := by
      rintro ⟨target, h⟩
      have hnone : Url.ofText? "databases" = none := by decide +kernel
      cases hnone.symm.trans h.target
    obtain ⟨s', hs, hw, hpauses⟩ :=
      (send_until_final hp "GET" "databases" [] none (⟨.const (.error "closed"), []⟩, 0)).2 hunsent
    rw [hs]
    exact Prod.ext rfl (Prod.ext hw hpauses)

end Client

end RecordWatch
