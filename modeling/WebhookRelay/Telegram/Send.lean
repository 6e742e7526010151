import WebhookRelay.Relay.Pipeline

/-!
# Sending the reply back

`TelegramRelay.send_response` of `src/webhook/telegram.py` POSTs the reply to the Bot API's
`sendMessage` once per attempt of `range(_MAX_RETRIES + 1)`. An attempt ends the loop when its
status is below 400 or is not one `_should_retry` accepts, and when `client.post` raises;
otherwise the next attempt follows, after `min(2 ** attempt, _BACKOFF_CAP_SECONDS)` seconds of
sleep unless the attempt was the last.

The client is given by its outcomes: `post i` is the status of attempt `i`'s response, or the
exception `client.post` raised there, of any type, so every server behaviour is one `post`. A run returns
the calls it made, in order, with what `send_response` returns or raises.

Proved: a run that stops at attempt `k` made the POSTs and sleeps of attempts `0 … k - 1`
and then one POST, and raises exactly what that POST raised (`sendResponse_of_stop`); a reply
refused with 429 or 5xx at every attempt is given up after four POSTs, with sleeps of 1, 2 and
4 seconds between them, and `send_response` returns normally (`sendResponse_of_all_retried`);
whatever the server does, `send_response` raises only what the client raised
(`sendResponse_error`), and it makes at most four POSTs and sleeps at most 7 seconds in all
(`sendResponse_bounded`).
-/

namespace WebhookRelay.Telegram

open Python Relay

/-- `_MAX_RETRIES`. -/
def maxRetries : Nat := 3

/-- `_BACKOFF_CAP_SECONDS`. -/
def backoffCapSeconds : Nat := 30

/-- `_should_retry`. -/
def shouldRetry (statusCode : Int) : Bool := statusCode == 429 || statusCode ≥ 500

/-- A status worth retrying is an error status, so the `< 400` test before it never decides. -/
theorem shouldRetry_not_lt {statusCode : Int} (h : shouldRetry statusCode) :
    ¬statusCode < 400 := by
  simp only [shouldRetry, Bool.or_eq_true, beq_iff_eq, decide_eq_true_eq] at h
  omega

/-- A call `send_response` makes outside the process. -/
inductive SendCall where
  /-- `client.post(url, json=payload)` -/
  | post (url : String) (payload : Dict PyValue)
  /-- `asyncio.sleep(delay)` -/
  | sleep (delay : Nat)

/-- The seconds a list of calls spends asleep. -/
def sleptSeconds : List SendCall → Nat
  | [] => 0
  | .post _ _ :: calls => sleptSeconds calls
  | .sleep delay :: calls => delay + sleptSeconds calls

theorem sleptSeconds_append (a b : List SendCall) :
    sleptSeconds (a ++ b) = sleptSeconds a + sleptSeconds b := by
  induction a using sleptSeconds.induct <;> simp_all [sleptSeconds, Nat.add_assoc]

/-- Whether a call is a POST. -/
def SendCall.isPost : SendCall → Bool
  | .post _ _ => true
  | .sleep _ => false

/-- `url` of `send_response`. -/
def sendMessageUrl (botToken : String) : String :=
  "https://api.telegram.org/bot" ++ botToken ++ "/sendMessage"

/-- `payload` of `send_response`. -/
def sendMessagePayload (chatId : Int) (text : String) : Dict PyValue :=
  dictOf [("chat_id", .int chatId), ("text", .str text)]

/-- Whether an attempt's outcome sends the loop on to the next attempt. -/
def retried {ε : Type} : Except ε Int → Bool
  | .ok statusCode => shouldRetry statusCode
  | .error _ => false

section

variable {ε : Type} (post : Nat → Except ε Int) (url : String) (payload : Dict PyValue)

/-- The calls of an attempt that is retried: its POST, then its sleep unless it is the last. -/
def retriedCalls (attempt : Nat) : List SendCall :=
  .post url payload ::
    if attempt < maxRetries then [.sleep (min (Nat.pow 2 attempt) backoffCapSeconds)] else []

/-- The `for attempt in ...` loop, over the attempts still to make. -/
def sendAttempts : List Nat → List SendCall × Except ε Unit
  | [] => ([], .ok ())
  | attempt :: rest =>
    match post attempt with
    | .error e => ([.post url payload], .error e)
    | .ok statusCode =>
      if statusCode < 400 then ([.post url payload], .ok ())
      else if !shouldRetry statusCode then ([.post url payload], .ok ())
      else
        let run := sendAttempts rest
        (.post url payload ::
            (if attempt < maxRetries then [.sleep (min (Nat.pow 2 attempt) backoffCapSeconds)]
              else []) ++ run.1,
          run.2)

/-- One retried attempt: its calls, then the rest of the loop. -/
theorem sendAttempts_cons_of_retried {attempt : Nat} (rest : List Nat)
    (h : retried (post attempt)) :
    sendAttempts post url payload (attempt :: rest) =
      (retriedCalls url payload attempt ++ (sendAttempts post url payload rest).1,
        (sendAttempts post url payload rest).2) := by
  cases hp : post attempt with
  | error e => simp [retried, hp] at h
  | ok statusCode =>
    rw [hp, retried] at h
    simp [sendAttempts, hp, h, shouldRetry_not_lt h, retriedCalls]

/-- One attempt that is not retried ends the loop with its POST. -/
theorem sendAttempts_cons_of_not_retried {attempt : Nat} (rest : List Nat)
    (h : retried (post attempt) = false) :
    sendAttempts post url payload (attempt :: rest) =
      ([.post url payload], (post attempt).map fun _ => ()) := by
  cases hp : post attempt with
  | error e => simp [sendAttempts, hp, Except.map]
  | ok statusCode =>
    rw [hp, retried] at h
    simp [sendAttempts, hp, h, Except.map]

/-- Attempts that are all retried: the calls of each, and no exception. -/
theorem sendAttempts_of_retried {l : List Nat} (h : ∀ i ∈ l, retried (post i)) :
    sendAttempts post url payload l = (l.flatMap (retriedCalls url payload), .ok ()) := by
  induction l with
  | nil => rfl
  | cons a l ih =>
    rw [sendAttempts_cons_of_retried _ _ _ _ (h a (List.mem_cons_self a l)),
      ih fun i hi => h i (List.mem_cons_of_mem a hi)]
    simp

/-- Retried attempts, then one that is not: the loop stops at its POST. -/
theorem sendAttempts_append_of_stop {pre : List Nat} {k : Nat} (rest : List Nat)
    (h : ∀ i ∈ pre, retried (post i)) (hstop : retried (post k) = false) :
    sendAttempts post url payload (pre ++ k :: rest) =
      (pre.flatMap (retriedCalls url payload) ++ [.post url payload],
        (post k).map fun _ => ()) := by
  induction pre with
  | nil => exact sendAttempts_cons_of_not_retried _ _ _ _ hstop
  | cons a pre ih =>
    rw [List.cons_append, sendAttempts_cons_of_retried _ _ _ _ (h a (List.mem_cons_self a pre)),
      ih fun i hi => h i (List.mem_cons_of_mem a hi)]
    simp

/-- The loop raises only what one of its POSTs raised. -/
theorem sendAttempts_error {e : ε} :
    ∀ {l : List Nat}, (sendAttempts post url payload l).2 = .error e → ∃ i ∈ l, post i = .error e
  | [], h => by cases h
  | attempt :: rest, h => by
    cases hr : retried (post attempt)
    · rw [sendAttempts_cons_of_not_retried _ _ _ _ hr] at h
      cases hp : post attempt <;> simp_all [Except.map]
    · rw [sendAttempts_cons_of_retried _ _ _ _ hr] at h
      obtain ⟨i, hi, hpi⟩ := sendAttempts_error h
      exact ⟨i, List.mem_cons_of_mem _ hi, hpi⟩

/-- The loop makes at most one POST per attempt, and sleeps at most as long as a loop in
which every attempt is retried. -/
theorem sendAttempts_bounded (l : List Nat) :
    (sendAttempts post url payload l).1.countP SendCall.isPost ≤ l.length ∧
      sleptSeconds (sendAttempts post url payload l).1 ≤
        sleptSeconds (l.flatMap (retriedCalls url payload)) := by
  induction l with
  | nil => simp [sendAttempts]
  | cons a rest ih =>
    cases hr : retried (post a)
    · rw [sendAttempts_cons_of_not_retried _ _ _ _ hr]
      simp [SendCall.isPost, sleptSeconds]
    · rw [sendAttempts_cons_of_retried _ _ _ _ hr]
      simp only [List.countP_append, List.flatMap_cons, sleptSeconds_append, List.length_cons]
      have hpost : (retriedCalls url payload a).countP SendCall.isPost = 1 := by
        unfold retriedCalls
        split_ifs <;> rfl
      omega

end

/-- `send_response`. -/
def sendResponse {ε : Type} (post : Nat → Except ε Int) (botToken : String) (chatId : Int)
    (text : String) : List SendCall × Except ε Unit :=
  sendAttempts post (sendMessageUrl botToken) (sendMessagePayload chatId text)
    (List.range (maxRetries + 1))

section

variable {ε : Type} (post : Nat → Except ε Int) (botToken : String) (chatId : Int) (text : String)

/-- A run that stops at attempt `k`, the first one whose status is below 400, is not worth
retrying, or is missing because the client raised: the POSTs and sleeps of the attempts
before `k`, then attempt `k`'s POST, and `send_response` raises what that POST raised. -/
theorem sendResponse_of_stop {k : Nat} (hk : k ≤ maxRetries) (h : ∀ i < k, retried (post i))
    (hstop : retried (post k) = false) :
    sendResponse post botToken chatId text =
      ((List.range k).flatMap (retriedCalls (sendMessageUrl botToken) (sendMessagePayload chatId text)) ++
          [.post (sendMessageUrl botToken) (sendMessagePayload chatId text)],
        (post k).map fun _ => ()) := by
  obtain ⟨n, hn⟩ : ∃ n, maxRetries + 1 = k + 1 + n := ⟨maxRetries - k, by omega⟩
  rw [sendResponse, hn, List.range_add, List.range_succ, List.append_assoc, List.singleton_append,
    sendAttempts_append_of_stop _ _ _ _ (fun i hi => h i (List.mem_range.mp hi)) hstop]

theorem sendResponse_of_stop_after_one_retry :
    let post : Nat → Except Unit Int := fun i => if i = 0 then .ok 503 else .ok 200
    1 ≤ maxRetries ∧ (∀ i < 1, retried (post i)) ∧ retried (post 1) = false ∧
      sendResponse post "t" 5 "hi" =
        ((List.range 1).flatMap (retriedCalls (sendMessageUrl "t") (sendMessagePayload 5 "hi")) ++
            [.post (sendMessageUrl "t") (sendMessagePayload 5 "hi")],
          (post 1).map fun _ => ()) :=
  ⟨by decide, by decide, rfl, sendResponse_of_stop _ "t" 5 "hi" (by decide) (by decide) rfl⟩

/-- A reply refused with 429 or a 5xx status at every attempt is given up after four POSTs,
with sleeps of 1, 2 and 4 seconds between them, and `send_response` returns normally. -/
theorem sendResponse_of_all_retried (h : ∀ i ≤ maxRetries, retried (post i)) :
    sendResponse post botToken chatId text =
      ([.post (sendMessageUrl botToken) (sendMessagePayload chatId text), .sleep 1,
        .post (sendMessageUrl botToken) (sendMessagePayload chatId text), .sleep 2,
        .post (sendMessageUrl botToken) (sendMessagePayload chatId text), .sleep 4,
        .post (sendMessageUrl botToken) (sendMessagePayload chatId text)], .ok ()) := by
  rw [sendResponse, sendAttempts_of_retried _ _ _
    fun i hi => h i (Nat.lt_succ_iff.mp (List.mem_range.mp hi))]
  rfl

theorem sendResponse_of_all_retried_503 :
    let post : Nat → Except Unit Int := fun _ => .ok 503
    (∀ i ≤ maxRetries, retried (post i)) ∧
      sendResponse post "t" 5 "hi" =
        ([.post (sendMessageUrl "t") (sendMessagePayload 5 "hi"), .sleep 1,
          .post (sendMessageUrl "t") (sendMessagePayload 5 "hi"), .sleep 2,
          .post (sendMessageUrl "t") (sendMessagePayload 5 "hi"), .sleep 4,
          .post (sendMessageUrl "t") (sendMessagePayload 5 "hi")], .ok ()) :=
  ⟨by decide, sendResponse_of_all_retried _ "t" 5 "hi" (by decide)⟩

/-- Whatever the server answers, `send_response` raises only what `client.post` raised at one
of its attempts: an error status is never reported to the caller. -/
theorem sendResponse_error {e : ε}
    (h : (sendResponse post botToken chatId text).2 = .error e) :
    ∃ i ≤ maxRetries, post i = .error e := by
  obtain ⟨i, hi, hpi⟩ := sendAttempts_error post _ _ h
  exact ⟨i, Nat.lt_succ_iff.mp (List.mem_range.mp hi), hpi⟩

theorem sendResponse_error_of_raising_client :
    let post : Nat → Except Unit Int := fun _ => .error ()
    (sendResponse post "t" 5 "hi").2 = .error () ∧ ∃ i ≤ maxRetries, post i = .error () :=
  ⟨rfl, sendResponse_error _ "t" 5 "hi" rfl⟩

/-- Whatever the server answers and whatever the client raises, `send_response` makes at most
four POSTs and sleeps at most 7 seconds in all. -/
theorem sendResponse_bounded :
    (sendResponse post botToken chatId text).1.countP SendCall.isPost ≤ maxRetries + 1 ∧
      sleptSeconds (sendResponse post botToken chatId text).1 ≤ 7 := by
  have h := sendAttempts_bounded post (sendMessageUrl botToken) (sendMessagePayload chatId text)
    (List.range (maxRetries + 1))
  have h7 : sleptSeconds ((List.range (maxRetries + 1)).flatMap
      (retriedCalls (sendMessageUrl botToken) (sendMessagePayload chatId text))) = 7 := rfl
  rw [List.length_range, h7] at h
  exact h

end

end WebhookRelay.Telegram
