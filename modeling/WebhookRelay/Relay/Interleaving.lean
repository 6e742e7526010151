import WebhookRelay.Relay.Isolation

/-!
# Concurrent relays

`relay` awaits only the upstream, so concurrent relays interleave as runs of atomic halves:
`begin` runs the gates, `append_user` and the request build, `finish` runs `append_assistant`
and the rest once the upstream has answered. `Sys` is the shared store and every relay's phase.

While a relay awaits the upstream its session keeps its user turn last, or another relay's
stale sweep drops the session whole (`Holds`). In that case the `setdefault` of
`append_assistant` starts a new history holding the reply alone; it happens only when some other
relay, idle and passing the gates, ran `append_user` (`Sys.Sweeps`) and its sweep read the clock
more than the TTL after the relay's own stamp.
-/

namespace WebhookRelay.Relay

open Python History

/-- One atomic half of relay `i`. -/
inductive Event where
  /-- Relay `i` runs up to its `await` of the upstream. -/
  | begin (i : Nat) (clk : Clocks)
  /-- The upstream answers relay `i` with `resp`; `stamp` is `append_assistant`'s reading. -/
  | finish (i : Nat) (resp : WebhookResponse) (stamp : Int)

def Event.relay : Event → Nat
  | .begin i _ => i
  | .finish i _ _ => i

/-- Where a relay is. -/
inductive Phase where
  | idle
  | waiting (pend : Pending)
  | done

/-- The shared store and every relay's phase; relay `i` handles message `ms i`. -/
structure Sys where
  history : Option ConversationHistory
  phase : Nat → Phase

namespace Sys

variable (p : WebhookRelayPipeline) (ms : Nat → WebhookMessage)

/-- One event; an event its relay's phase does not allow changes nothing. -/
def step (s : Sys) : Event → Sys
  | .begin i clk =>
    match s.phase i with
    | .idle =>
      let b := relayBegin { p with conversationHistory := s.history } (ms i) clk
      match b.outcome with
      | .ok pend => ⟨b.history, Function.update s.phase i (.waiting pend)⟩
      | .error _ => ⟨b.history, Function.update s.phase i .done⟩
    | _ => s
  | .finish i resp stamp =>
    match s.phase i with
    | .waiting pend =>
      ⟨(relayFinish { p with conversationHistory := s.history } (ms i) pend.sessionId resp stamp).1,
        Function.update s.phase i .done⟩
    | _ => s

/-- A run of events. -/
def run (s : Sys) (evs : List Event) : Sys := evs.foldl (step p ms) s

/-- Every waiting relay's request is on its own session key. -/
def Keyed (s : Sys) : Prop := ∀ j pend, s.phase j = .waiting pend → pend.sessionId = sessionKey (ms j)

variable {p ms}

/-! ## One step -/

theorem run_inv (I : Sys → Prop) (hstep : ∀ s e, I s → I (s.step p ms e)) :
    ∀ (evs : List Event) {s : Sys}, I s → I (s.run p ms evs)
  | [], _, hs => hs
  | e :: evs, _, hs => run_inv I hstep evs (hstep _ e hs)

theorem run_append (s : Sys) (l₁ l₂ : List Event) :
    s.run p ms (l₁ ++ l₂) = (s.run p ms l₁).run p ms l₂ := List.foldl_append _ _ _ _

theorem run_append_singleton (s : Sys) (evs : List Event) (e : Event) :
    s.run p ms (evs ++ [e]) = (s.run p ms evs).step p ms e := by
  rw [run_append]
  rfl

theorem step_phase_ne {s : Sys} {e : Event} {i : Nat} (hi : e.relay ≠ i) :
    (s.step p ms e).phase i = s.phase i := by
  cases e with
  | begin j clk =>
    simp only [step]
    split
    · split <;> exact Function.update_noteq (Ne.symm hi) _ _
    · rfl
  | finish j resp stamp =>
    simp only [step]
    split
    · exact Function.update_noteq (Ne.symm hi) _ _
    · rfl

theorem run_phase_ne {s : Sys} {i : Nat} :
    ∀ {evs : List Event}, (∀ e ∈ evs, e.relay ≠ i) → (s.run p ms evs).phase i = s.phase i
  | [], _ => rfl
  | e :: evs, h => by
    rw [run, List.foldl_cons, ← run, run_phase_ne (fun e' he' => h e' (.tail _ he')),
      step_phase_ne (h e (.head _))]

theorem step_begin_idle {s : Sys} {i : Nat} {clk : Clocks} (hi : s.phase i = .idle) :
    (s.step p ms (.begin i clk)).history =
      (relayBegin { p with conversationHistory := s.history } (ms i) clk).history := by
  simp only [step, hi]
  split <;> rfl

/-- What one step can do to the store: nothing, `append_user` of a relay that passed the
gates, or `append_assistant` of a waiting relay that got a 200. -/
theorem step_history {s : Sys} {h : ConversationHistory} (hs : s.history = some h) (e : Event) :
    (s.step p ms e).history = some h ∨
    (∃ i clk cleanText c, e = .begin i clk ∧ s.phase i = .idle ∧
      gates p (ms i) = .ok (cleanText, c) ∧ (s.step p ms e).history =
        some (h.appendUser (sessionKey (ms i)) (historyText cleanText (ms i).attachments) clk.sweep
          clk.user)) ∨
    (∃ i resp stamp pend, e = .finish i resp stamp ∧ s.phase i = .waiting pend ∧
      (s.step p ms e).history = some (h.appendAssistant pend.sessionId resp.text stamp)) := by
  cases e with
  | begin i clk =>
    cases hi : s.phase i with
    | idle =>
      rw [step_begin_idle hi]
      rcases hg : gates { p with conversationHistory := s.history } (ms i) with ⟨r, c⟩ | ⟨t, c⟩
      · exact .inl (by rw [relayBegin_of_gates_error hg]; exact hs)
      · refine .inr (.inl ⟨i, clk, t, c, rfl, hi, hg, ?_⟩)
        rw [relayBegin_of_gates_ok hg, (historyMessages_spec t).1]
        simp [hs]
    | waiting _ | done => exact .inl (by simp [step, hi, hs])
  | finish i resp stamp =>
    cases hi : s.phase i with
    | waiting pend =>
      by_cases h200 : resp.statusCode = 200
      · refine .inr (.inr ⟨i, resp, stamp, pend, rfl, hi, ?_⟩)
        simp [step, hi, (relayFinish_spec _ _ _).1, hs, h200]
      · exact .inl (by simp [step, hi, (relayFinish_spec _ _ _).1, hs, h200])
    | idle | done => exact .inl (by simp [step, hi, hs])

theorem Keyed.step {s : Sys} (hk : Keyed ms s) (e : Event) : Keyed ms (s.step p ms e) := by
  intro j pend hj
  by_cases hej : e.relay = j
  · cases e with
    | begin i clk =>
      obtain rfl : i = j := hej
      cases hi : s.phase i with
      | idle =>
        simp only [Sys.step, hi] at hj
        rcases hg : gates { p with conversationHistory := s.history } (ms i) with
          ⟨r, c⟩ | ⟨t, c⟩
        · simp [relayBegin_of_gates_error hg] at hj
        · simp only [relayBegin_of_gates_ok hg, Function.update_same, Phase.waiting.injEq] at hj
          rw [← hj]
      | waiting q => simp only [Sys.step, hi] at hj; exact hk _ _ (hi.trans hj)
      | done => simp [Sys.step, hi] at hj
    | finish i resp stamp =>
      obtain rfl : i = j := hej
      cases hi : s.phase i <;> simp [Sys.step, hi] at hj
  · rw [step_phase_ne hej] at hj
    exact hk j pend hj

/-- The store is present with limit `M` and TTL `ttl`. -/
def Stored (M ttl : Int) (s : Sys) : Prop :=
  ∃ h, s.history = some h ∧ h.maxMessages = M ∧ h.sessionTtl = ttl

theorem Stored.step {M ttl : Int} {s : Sys} (hs : Stored M ttl s) (e : Event) :
    Stored M ttl (s.step p ms e) := by
  obtain ⟨h, hh, hM, hT⟩ := hs
  rcases step_history hh e with h' | ⟨_, _, _, _, -, -, -, h'⟩ | ⟨_, _, _, _, -, -, h'⟩ <;>
    exact ⟨_, h', by simp [hM], by simp [hT]⟩

/-! ## Sweeping steps -/

variable (p ms) in
/-- In the run `evs` from `s₀`, relay `j`'s `begin` at the readings `clk` finds relay `j` idle
and passes the gates: it runs `append_user`, and with it the stale sweep at `clk.sweep`. -/
def Sweeps (s₀ : Sys) (evs : List Event) (j : Nat) (clk : Clocks) : Prop :=
  ∃ evs₁ evs₂, evs = evs₁ ++ .begin j clk :: evs₂ ∧
    (s₀.run p ms evs₁).phase j = .idle ∧ ∃ cleanText c, gates p (ms j) = .ok (cleanText, c)

variable {s₀ : Sys} {evs : List Event} {j : Nat} {clk : Clocks}

theorem Sweeps.append (hs : Sweeps p ms s₀ evs j clk) (evs' : List Event) :
    Sweeps p ms s₀ (evs ++ evs') j clk := by
  obtain ⟨evs₁, evs₂, rfl, hj, hg⟩ := hs
  exact ⟨evs₁, evs₂ ++ evs', by simp, hj, hg⟩

theorem sweeps_concat (hj : (s₀.run p ms evs).phase j = .idle) {cleanText : String}
    {c : List Call} (hg : gates p (ms j) = .ok (cleanText, c)) :
    Sweeps p ms s₀ (evs ++ [.begin j clk]) j clk :=
  ⟨evs, [], rfl, hj, cleanText, c, hg⟩

theorem Sweeps.mem (hs : Sweeps p ms s₀ evs j clk) : Event.begin j clk ∈ evs := by
  obtain ⟨evs₁, evs₂, rfl, -⟩ := hs
  simp

end Sys

/-! ## A session awaiting its reply -/

/-- Session `k` ends with the user turn `u`, stamped `t`. -/
def Awaits (k : String) (u : ChatTurn) (t : Int) (h : ConversationHistory) : Prop :=
  ∃ l, h.get k = l ++ [u] ∧ h.lastSeen.get? k = some t

variable {k k' : String} {u : ChatTurn} {t : Int} {h : ConversationHistory}

/-- Another session's `append_user` keeps the awaiting session, or its sweep, reading the clock
more than the TTL after the session's stamp, drops it. -/
theorem Awaits.appendUser (ha : Awaits k u t h) (hk : k' ≠ k) (c : String) (now stamp : Int) :
    Awaits k u t (h.appendUser k' c now stamp) ∨
      ((h.appendUser k' c now stamp).store.get? k = none ∧ now - t > h.sessionTtl) := by
  obtain ⟨l, hl, ht⟩ := ha
  rcases @KeptOrSwept.appendUser k now h k' hk c stamp with ⟨hs, hs'⟩ | ⟨hs, -, ts, hts, hgt⟩
  · exact .inl ⟨l, by rw [ConversationHistory.get, hs]; exact hl, hs'.trans ht⟩
  · rw [ht] at hts
    cases hts
    exact .inr ⟨hs, hgt⟩

theorem absent_appendUser (ha : h.store.get? k = none) (hk : k' ≠ k) (c : String)
    (now stamp : Int) : (h.appendUser k' c now stamp).store.get? k = none := by
  rcases @KeptOrSwept.appendUser k now h k' hk c stamp with ⟨hs, -⟩ | ⟨hs, -⟩ <;> simp [hs, ha]

theorem Awaits.appendAssistant (ha : Awaits k u t h) (hk : k' ≠ k) (c : String) (stamp : Int) :
    Awaits k u t (h.appendAssistant k' c stamp) := by
  obtain ⟨l, hl, ht⟩ := ha
  refine ⟨l, ?_, ?_⟩
  · rw [ConversationHistory.get, ConversationHistory.appendAssistant,
      ConversationHistory.appendTurn_store_ne _ hk]
    exact hl
  · rw [ConversationHistory.appendAssistant, ConversationHistory.appendTurn_lastSeen_ne _ hk]
    exact ht

/-- The awaiting session: still awaiting, or dropped by a sweep `sw j clk` that read the clock
more than `ttl` after its stamp. -/
def Holds (sw : Nat → Clocks → Prop) (k : String) (u : ChatTurn) (t ttl : Int)
    (h : ConversationHistory) : Prop :=
  Awaits k u t h ∨ (h.store.get? k = none ∧ ∃ j clk, sw j clk ∧ clk.sweep - t > ttl)

theorem Holds.mono {ttl : Int} {sw sw' : Nat → Clocks → Prop} (hh : Holds sw k u t ttl h)
    (hsw : ∀ j clk, sw j clk → sw' j clk) : Holds sw' k u t ttl h := by
  rcases hh with ha | ⟨hn, j, clk, hj, hg⟩
  · exact .inl ha
  · exact .inr ⟨hn, j, clk, hsw j clk hj, hg⟩

/-- The reply `append_assistant` stores in an awaiting session follows its user turn; in a session
the sweep dropped it stands alone. -/
theorem Holds.appendAssistant_self {ttl : Int} {sw : Nat → Clocks → Prop} {n : Nat}
    (hh : Holds sw k u t ttl h) (hM : h.maxMessages = ((n + 2 : Nat) : Int)) (a : String)
    (stamp : Int) :
    (∃ l, (h.appendAssistant k a stamp).get k = l ++ [u, ⟨.assistant, a⟩]) ∨
      ((h.appendAssistant k a stamp).get k = [⟨.assistant, a⟩] ∧
        ∃ j clk, sw j clk ∧ clk.sweep - t > ttl) := by
  simp only [ConversationHistory.appendAssistant, ConversationHistory.get_appendTurn_self, hM,
    ConversationHistory.truncate_eq_rtake (Nat.succ_pos (n + 1))]
  rcases hh with ⟨l, hl, -⟩ | ⟨hn, rest⟩
  · refine .inl ⟨l.rtake n, ?_⟩
    rw [hl, List.rtake_concat_succ, List.rtake_concat_succ]
    simp
  · have h0 : h.get k = [] := by simp [ConversationHistory.get, hn]
    exact .inr ⟨by simp [h0, List.rtake], rest⟩

namespace Sys

variable {p : WebhookRelayPipeline} {ms : Nat → WebhookMessage} {i : Nat}

/-- Relay `i` passes the gates: it waits, and its session ends with its user turn. -/
theorem step_begin_awaits {s : Sys} {h : ConversationHistory} (hi : s.phase i = .idle)
    (hs : s.history = some h) {n : Nat} (hM : h.maxMessages = ((n + 1 : Nat) : Int))
    (clk : Clocks) {cleanText : String} {c : List Call} (hg : gates p (ms i) = .ok (cleanText, c)) :
    (∃ pend, (s.step p ms (.begin i clk)).phase i = .waiting pend) ∧
    ∃ h', (s.step p ms (.begin i clk)).history = some h' ∧ h'.maxMessages = h.maxMessages ∧
      h'.sessionTtl = h.sessionTtl ∧
      Awaits (sessionKey (ms i)) ⟨.user, historyText cleanText (ms i).attachments⟩ clk.user h' := by
  rw [← gates_with_history p s.history] at hg
  refine ⟨by simp [step, hi, relayBegin_of_gates_ok hg],
    h.appendUser (sessionKey (ms i)) (historyText cleanText (ms i).attachments) clk.sweep clk.user,
    ?_, by simp, by simp, ((h.evictStaleSessions clk.sweep).get (sessionKey (ms i))).rtake n, ?_, ?_⟩
  · rw [step_begin_idle hi, relayBegin_of_gates_ok hg, (historyMessages_spec cleanText).1]
    simp [hs]
  · rw [ConversationHistory.get_appendUser_self, hM,
      ConversationHistory.truncate_eq_rtake (Nat.succ_pos n), List.rtake_concat_succ]
  · simp [ConversationHistory.appendUser]

theorem step_finish {s : Sys} {h : ConversationHistory} {pend : Pending}
    (hi : s.phase i = .waiting pend) (hs : s.history = some h) {resp : WebhookResponse}
    (h200 : resp.statusCode = 200) (stamp : Int) :
    (s.step p ms (.finish i resp stamp)).history =
      some (h.appendAssistant pend.sessionId resp.text stamp) := by
  simp [step, hi, (relayFinish_spec _ _ _).1, hs, h200]

variable {s₀ : Sys} {evs : List Event}

/-- A step of another relay keeps relay `i`'s session `Holds`; a sweep that drops it is a
`begin` of an idle relay that passed the gates. -/
theorem Holds.step (hkeys : ∀ j, j ≠ i → sessionKey (ms j) ≠ sessionKey (ms i))
    (hK₀ : Keyed ms s₀) (hs : (s₀.run p ms evs).history = some h) {e : Event}
    (he : e.relay ≠ i) {ttl : Int} (hT : h.sessionTtl = ttl)
    (hh : Holds (Sweeps p ms s₀ evs) (sessionKey (ms i)) u t ttl h) :
    ∃ h', (s₀.run p ms (evs ++ [e])).history = some h' ∧ h'.sessionTtl = ttl ∧
      Holds (Sweeps p ms s₀ (evs ++ [e])) (sessionKey (ms i)) u t ttl h' := by
  have hK : Keyed ms (s₀.run p ms evs) := run_inv _ (fun _ e h => h.step e) evs hK₀
  have hh' := hh.mono fun j clk hj => hj.append [e]
  rw [run_append_singleton]
  rcases step_history hs e with
    h' | ⟨j, clk, c, cs, rfl, hj, hg, h'⟩ | ⟨j, resp, stamp, pend, rfl, hj, h'⟩
  · exact ⟨h, h', hT, hh'⟩
  · refine ⟨_, h', by simp [hT], ?_⟩
    rcases hh' with ha | ⟨hn, rest⟩
    · rcases ha.appendUser (hkeys j he) _ clk.sweep clk.user with ha' | ⟨hn, hgt⟩
      · exact .inl ha'
      · exact .inr ⟨hn, j, clk, sweeps_concat hj hg, hT ▸ hgt⟩
    · exact .inr ⟨absent_appendUser hn (hkeys j he) _ clk.sweep clk.user, rest⟩
  · have hk : pend.sessionId ≠ sessionKey (ms i) := hK j pend hj ▸ hkeys j he
    refine ⟨_, h', by simp [hT], ?_⟩
    rcases hh' with ha | ⟨hn, rest⟩
    · exact .inl (ha.appendAssistant hk _ _)
    · exact .inr ⟨(h.appendTurn_store_ne hk _ _).trans hn, rest⟩

/-- While relay `i` awaits the upstream, its session `Holds` over the events of the others. -/
theorem run_holds (hkeys : ∀ j, j ≠ i → sessionKey (ms j) ≠ sessionKey (ms i)) {ttl : Int}
    (hK₀ : Keyed ms s₀) :
    ∀ (mid evs : List Event), (∀ e ∈ mid, e.relay ≠ i) → ∀ {h : ConversationHistory},
      (s₀.run p ms evs).history = some h → h.sessionTtl = ttl →
      Holds (Sweeps p ms s₀ evs) (sessionKey (ms i)) u t ttl h →
      ∃ h', (s₀.run p ms (evs ++ mid)).history = some h' ∧
        Holds (Sweeps p ms s₀ (evs ++ mid)) (sessionKey (ms i)) u t ttl h'
  | [], evs, _, h, hs, _, hh => ⟨h, by rwa [List.append_nil], by rwa [List.append_nil]⟩
  | e :: mid, evs, hmid, _, hs, hT, hh => by
    obtain ⟨h', hs', hT', hh'⟩ := Holds.step hkeys hK₀ hs (hmid e (.head _)) hT hh
    rw [List.append_cons]
    exact run_holds hkeys hK₀ mid (evs ++ [e]) (fun e' he' => hmid e' (.tail _ he')) hs'
      hT' hh'

end Sys

/-- In any interleaving of relays on pairwise distinct session keys, from any store with
`max_turns ≥ 1` and every relay idle: when relay `i`, which passed the gates, stores a 200
reply, its session ends with its own user turn and that reply, or it holds the reply alone.
The second happens only when, while relay `i` awaited the upstream, another relay `j` was idle,
passed the gates and so ran `append_user`, whose sweep read the clock more than the TTL after
relay `i`'s user stamp. -/
theorem interleaved_reply_follows_user_turn (p : WebhookRelayPipeline)
    (ms : Nat → WebhookMessage) (h₀ : ConversationHistory) (maxTurns : Int) (hm : 1 ≤ maxTurns)
    (hmax : h₀.maxMessages = maxTurns * 2) (i : Nat)
    (hkeys : ∀ j, j ≠ i → sessionKey (ms j) ≠ sessionKey (ms i)) (pre mid : List Event)
    (hpre : ∀ e ∈ pre, e.relay ≠ i) (hmid : ∀ e ∈ mid, e.relay ≠ i) (clk : Clocks)
    {cleanText : String} {c : List Call} (hg : gates p (ms i) = .ok (cleanText, c))
    (resp : WebhookResponse) (h200 : resp.statusCode = 200) (stamp : Int) :
    ∃ h, (Sys.run p ms ⟨some h₀, fun _ => .idle⟩
        (pre ++ .begin i clk :: mid ++ [.finish i resp stamp])).history = some h ∧
      ((∃ l, h.get (sessionKey (ms i)) =
          l ++ [⟨.user, historyText cleanText (ms i).attachments⟩, ⟨.assistant, resp.text⟩]) ∨
        (h.get (sessionKey (ms i)) = [⟨.assistant, resp.text⟩] ∧
          ∃ j clk', j ≠ i ∧
            Sys.Sweeps p ms (Sys.run p ms ⟨some h₀, fun _ => .idle⟩ (pre ++ [.begin i clk]))
              mid j clk' ∧
            clk'.sweep - clk.user > h₀.sessionTtl)) := by
  obtain ⟨n, hn⟩ : ∃ n : Nat, maxTurns * 2 = ((n + 2 : Nat) : Int) := ⟨2 * maxTurns.toNat - 2, by omega⟩
  let s₁ := Sys.run p ms ⟨some h₀, fun _ => .idle⟩ pre
  have hK₁ : Sys.Keyed ms s₁ := Sys.run_inv _ (fun _ e h => h.step e) pre (fun _ _ h => by cases h)
  obtain ⟨h₁, hs₁, hM₁, hT₁⟩ : Sys.Stored (maxTurns * 2) h₀.sessionTtl s₁ :=
    Sys.run_inv _ (fun _ e h => h.step e) pre ⟨h₀, rfl, hmax, rfl⟩
  have hi₁ : s₁.phase i = .idle := Sys.run_phase_ne hpre
  obtain ⟨⟨pend, hi₂⟩, h₂, hs₂, hM₂, hT₂, ha₂⟩ :=
    Sys.step_begin_awaits hi₁ hs₁ (n := n + 1) (by rw [hM₁, hn]) clk hg
  let s₂ := s₁.step p ms (.begin i clk)
  have hs₂' : Sys.run p ms ⟨some h₀, fun _ => .idle⟩ (pre ++ [.begin i clk]) = s₂ :=
    Sys.run_append_singleton _ _ _
  have hK₂ : Sys.Keyed ms s₂ := hK₁.step _
  obtain ⟨h₃, hs₃, hh₃⟩ :=
    Sys.run_holds (p := p) hkeys hK₂ mid [] hmid hs₂ (hT₂.trans hT₁) (.inl ha₂ : Holds _ _ _ _ _ _)
  have hK₃ : Sys.Keyed ms (s₂.run p ms mid) := Sys.run_inv _ (fun _ e h => h.step e) mid hK₂
  obtain ⟨h₃', hs₃', hM₃, -⟩ : Sys.Stored (maxTurns * 2) h₀.sessionTtl (s₂.run p ms mid) :=
    Sys.run_inv _ (fun _ e h => h.step e) mid ⟨h₂, hs₂, hM₂.trans hM₁, hT₂.trans hT₁⟩
  obtain rfl : h₃ = h₃' := Option.some.inj (hs₃.symm.trans hs₃')
  have hi₃ : (s₂.run p ms mid).phase i = .waiting pend := (Sys.run_phase_ne hmid).trans hi₂
  refine ⟨h₃.appendAssistant pend.sessionId resp.text stamp, ?_, ?_⟩
  · rw [Sys.run_append, Sys.run_append]
    exact Sys.step_finish hi₃ hs₃ h200 stamp
  · rw [hK₃ i pend hi₃, hs₂']
    rcases hh₃.appendAssistant_self (hM₃.trans hn) resp.text stamp with
      hl | ⟨h1, j, clk', hj, hgt⟩
    · exact .inl hl
    · exact .inr ⟨h1, j, clk', hmid _ hj.mem, hj, hgt⟩

theorem interleaved_reply_follows_user_turn_two_relays :
    let p : WebhookRelayPipeline := ⟨fun s => .ok s, "", "", none, none, none, false, none⟩
    let ms : Nat → WebhookMessage := fun j => if j = 0
      then { source := "telegram", text := "hi", senderId := "a" }
      else { source := "telegram", text := "hi", senderId := "b" }
    let mid := [Event.begin 1 ⟨5, 5, 5⟩]
    (1 ≤ (20 : Int) ∧ ConversationHistory.new.maxMessages = 20 * 2 ∧
      (∀ j, j ≠ 0 → sessionKey (ms j) ≠ sessionKey (ms 0)) ∧
      (∀ e ∈ ([] : List Event), e.relay ≠ 0) ∧ (∀ e ∈ mid, e.relay ≠ 0) ∧
      gates p (ms 0) = .ok ("hi", [.sanitize "hi"]) ∧ (⟨"ok", 200⟩ : WebhookResponse).statusCode = 200) ∧
    ∃ h, (Sys.run p ms ⟨some ConversationHistory.new, fun _ => .idle⟩
        ([] ++ .begin 0 ⟨0, 0, 0⟩ :: mid ++ [.finish 0 ⟨"ok", 200⟩ 5])).history = some h ∧
      ((∃ l, h.get (sessionKey (ms 0)) =
          l ++ [⟨.user, historyText "hi" (ms 0).attachments⟩, ⟨.assistant, "ok"⟩]) ∨
        (h.get (sessionKey (ms 0)) = [⟨.assistant, "ok"⟩] ∧
          ∃ j clk', j ≠ 0 ∧
            Sys.Sweeps p ms (Sys.run p ms ⟨some ConversationHistory.new, fun _ => .idle⟩
              ([] ++ [.begin 0 ⟨0, 0, 0⟩])) mid j clk' ∧
            clk'.sweep - (⟨0, 0, 0⟩ : Clocks).user > ConversationHistory.new.sessionTtl)) := by
  intro p ms mid
  have hkeys : ∀ j, j ≠ 0 → sessionKey (ms j) ≠ sessionKey (ms 0) := by
    intro j hj
    simp only [ms, if_neg hj, if_pos rfl]
    decide
  have hmid : ∀ e ∈ mid, e.relay ≠ 0 := by
    intro e he
    simp only [mid, List.mem_singleton] at he
    subst he
    decide
  exact ⟨⟨by decide, rfl, hkeys, by simp, hmid, rfl, rfl⟩,
    interleaved_reply_follows_user_turn p ms _ 20 (by decide) rfl 0 hkeys [] mid (by simp) hmid
      ⟨0, 0, 0⟩ rfl ⟨"ok", 200⟩ rfl 5⟩

/-- Relay 0 awaits the upstream past the TTL; relay 1's `append_user` sweeps its session, and
`append_assistant` then starts a new history with the reply alone. -/
theorem swept_session_stores_reply_alone :
    (Sys.run ⟨fun s => .ok s, "", "", none, none, none, false, none⟩
      (fun j => if j = 0 then { source := "telegram", text := "hi", senderId := "a" }
        else { source := "telegram", text := "hi", senderId := "b" })
      ⟨some ConversationHistory.new, fun _ => .idle⟩
      [.begin 0 ⟨0, 0, 0⟩, .begin 1 ⟨86401, 86401, 86401⟩, .finish 0 ⟨"ok", 200⟩ 86401]).history.map
      (fun h => h.get "telegram:a") = some [⟨.assistant, "ok"⟩] := by
  decide

end WebhookRelay.Relay
