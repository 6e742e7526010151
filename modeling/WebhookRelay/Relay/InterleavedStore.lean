import WebhookRelay.Relay.Interleaving
import WebhookRelay.History.Refinement

/-!
# What any interleaving does to the store

Relays interleave only at their `await` of the upstream, so the store sees the calls of whole
halves: one `append_user` in a `begin` that passes the gates, one `append_assistant` in a
`finish` that got a 200. Every interleaving therefore leaves the store where the sequence of
those calls, made one after another, leaves it (`Sys.run_history_run`), and the sequential
store's refinement (`History.Refines`) carries over.

Proved: under every interleaving, from `ConversationHistory(max_turns, ttl)` with
`max_turns ≥ 1`, every session holds at most `2 * max_turns` turns and the turn and stamp dicts
have the same keys, so the sweep can evict every session (`interleaved_store_bounded`); and
each `finish` writes the reply into the session of its own relay's message, whatever the other
relays did while it waited (`interleaved_reply_own_session`); and a session none of whose relays
takes a step ends as it began, or evicted whole by the stale sweep of another relay's
`append_user` (`interleaved_isolates_sessions`).
-/

namespace WebhookRelay.Relay

open Python History

namespace Sys

variable {p : WebhookRelayPipeline} {ms : Nat → WebhookMessage}

/-- One step acts on a present store as a run of store calls: none, or one. -/
theorem step_history_run {s : Sys} {h : ConversationHistory} (hs : s.history = some h)
    (e : Event) : ∃ ops : List Op, (s.step p ms e).history = some (h.run ops) := by
  rcases step_history hs e with h' | ⟨i, clk, c, -, -, -, -, h'⟩ | ⟨i, resp, stamp, pend, -, -, h'⟩
  · exact ⟨[], h'⟩
  · exact ⟨[.appendUser _ _ clk.sweep clk.user], h'⟩
  · exact ⟨[.appendAssistant _ _ stamp], h'⟩

/-- Every run acts on the store as one sequential run of store calls. -/
theorem run_history_run (h₀ : ConversationHistory) (evs : List Event) {s : Sys}
    (hs : ∃ ops, s.history = some (h₀.run ops)) :
    ∃ ops, (s.run p ms evs).history = some (h₀.run ops) := by
  refine run_inv (fun s => ∃ ops, s.history = some (h₀.run ops)) (fun s e ⟨ops, hs⟩ => ?_) evs hs
  obtain ⟨ops', h'⟩ := step_history_run hs e
  exact ⟨ops ++ ops', by rw [h', ConversationHistory.run, ConversationHistory.run,
    ConversationHistory.run, List.foldl_append]⟩

/-- A `finish` leaves the store, or appends a 200 reply to the waiting request's session. -/
theorem step_finish_history {s : Sys} (i : Nat) (resp : WebhookResponse) (stamp : Int) :
    (s.step p ms (.finish i resp stamp)).history = s.history ∨
      ∃ pend, s.phase i = .waiting pend ∧ resp.statusCode = 200 ∧
        (s.step p ms (.finish i resp stamp)).history =
          s.history.map (·.appendAssistant pend.sessionId resp.text stamp) := by
  cases hi : s.phase i with
  | waiting pend =>
    by_cases h200 : resp.statusCode = 200
    · exact .inr ⟨pend, rfl, h200, by simp [step, hi, (relayFinish_spec _ _ _).1, h200]⟩
    · exact .inl (by simp [step, hi, (relayFinish_spec _ _ _).1, h200])
  | idle | done => exact .inl (by simp [step, hi])

/-- A step of a relay on another session keeps session `k`, or is a sweeping `begin` after
which `k` is kept or dropped stale. -/
theorem step_keptOrSwept {s : Sys} (hK : Keyed ms s) {h : ConversationHistory}
    (hs : s.history = some h) {e : Event} {k : String} (hk : sessionKey (ms e.relay) ≠ k) :
    ∃ h', (s.step p ms e).history = some h' ∧ h'.sessionTtl = h.sessionTtl ∧
      ((h'.store.get? k = h.store.get? k ∧ h'.lastSeen.get? k = h.lastSeen.get? k) ∨
        ∃ j clk, e = .begin j clk ∧ s.phase j = .idle ∧
          (∃ cleanText c, gates p (ms j) = .ok (cleanText, c)) ∧
          KeptOrSwept k clk.sweep h h') := by
  rcases step_history hs e with
    h' | ⟨j, clk, c, cs, rfl, hj, hg, h'⟩ | ⟨i, _, _, pend, rfl, hi, h'⟩
  · exact ⟨h, h', rfl, .inl ⟨rfl, rfl⟩⟩
  · exact ⟨_, h', by simp,
      .inr ⟨j, clk, rfl, hj, ⟨c, cs, hg⟩, KeptOrSwept.appendUser hk _ _⟩⟩
  · rw [hK i pend hi] at h'
    exact ⟨_, h', by simp, .inl ⟨h.appendTurn_store_ne hk _ _,
      h.appendTurn_lastSeen_ne hk _ _⟩⟩

end Sys

/-- Session `k` of `h`, after the events `evs` from `s₀`: that of `h₀`, turns and stamp, or gone
from both dicts, swept by a `begin` among `evs` that read the clock more than the TTL after the
stamp `k` had in `h₀`. -/
def KeptOrGone (p : WebhookRelayPipeline) (ms : Nat → WebhookMessage) (s₀ : Sys)
    (evs : List Event) (k : String) (h₀ h : ConversationHistory) : Prop :=
  (h.store.get? k = h₀.store.get? k ∧ h.lastSeen.get? k = h₀.lastSeen.get? k) ∨
    (h.store.get? k = none ∧ h.lastSeen.get? k = none ∧
      ∃ ts, h₀.lastSeen.get? k = some ts ∧
        ∃ j clk, Sys.Sweeps p ms s₀ evs j clk ∧ clk.sweep - ts > h₀.sessionTtl)

namespace KeptOrGone

variable {p : WebhookRelayPipeline} {ms : Nat → WebhookMessage} {s₀ : Sys}
  {evs evs' : List Event} {k : String} {h₀ h h' : ConversationHistory}

/-- A step that leaves session `k` as it was. -/
theorem kept (r : KeptOrGone p ms s₀ evs k h₀ h) (hs : h'.store.get? k = h.store.get? k)
    (hl : h'.lastSeen.get? k = h.lastSeen.get? k) (evs' : List Event) :
    KeptOrGone p ms s₀ (evs ++ evs') k h₀ h' := by
  rw [KeptOrGone, hs, hl]
  rcases r with r | ⟨hs, hl, ts, hts, j, clk, hj, hgt⟩
  · exact .inl r
  · exact .inr ⟨hs, hl, ts, hts, j, clk, hj.append evs', hgt⟩

/-- A sweeping step keeps session `k` or drops it stale. -/
theorem keptOrSwept (r : KeptOrGone p ms s₀ evs k h₀ h) (hT : h.sessionTtl = h₀.sessionTtl)
    {j : Nat} {clk : Clocks} (r' : KeptOrSwept k clk.sweep h h')
    (hj : Sys.Sweeps p ms s₀ (evs ++ evs') j clk) :
    KeptOrGone p ms s₀ (evs ++ evs') k h₀ h' := by
  rcases r' with ⟨hs, hl⟩ | ⟨hs, hl, ts, hts, hgt⟩
  · exact r.kept hs hl evs'
  · rcases r with ⟨-, hl₀⟩ | ⟨-, hl₀, -⟩ <;> rw [hl₀] at hts
    · exact .inr ⟨hs, hl, ts, hts, j, clk, hj, hT ▸ hgt⟩
    · cases hts

end KeptOrGone

variable {p : WebhookRelayPipeline} {ms : Nat → WebhookMessage} {s₀ : Sys} {k : String}
  {h₀ : ConversationHistory}

/-- A step of a relay on another session keeps `KeptOrGone`. -/
theorem KeptOrGone.step (hK₀ : Sys.Keyed ms s₀) {evs : List Event} {h : ConversationHistory}
    (hs : (s₀.run p ms evs).history = some h) (hT : h.sessionTtl = h₀.sessionTtl) {e : Event}
    (hk : sessionKey (ms e.relay) ≠ k) (r : KeptOrGone p ms s₀ evs k h₀ h) :
    ∃ h', (s₀.run p ms (evs ++ [e])).history = some h' ∧ h'.sessionTtl = h₀.sessionTtl ∧
      KeptOrGone p ms s₀ (evs ++ [e]) k h₀ h' := by
  have hK : Sys.Keyed ms (s₀.run p ms evs) := Sys.run_inv _ (fun _ e h => h.step e) evs hK₀
  rw [Sys.run_append_singleton]
  obtain ⟨h', hs', hT', ⟨hk₁, hk₂⟩ | ⟨j, clk, rfl, hj, ⟨c, cs, hg⟩, r'⟩⟩ :=
    Sys.step_keptOrSwept hK hs hk
  · exact ⟨h', hs', hT'.trans hT, r.kept hk₁ hk₂ _⟩
  · exact ⟨h', hs', hT'.trans hT, r.keptOrSwept hT r' (Sys.sweeps_concat hj hg)⟩

theorem Sys.run_keptOrGone (hK₀ : Sys.Keyed ms s₀) :
    ∀ (evs' evs : List Event), (∀ e ∈ evs', sessionKey (ms e.relay) ≠ k) →
      ∀ {h : ConversationHistory}, (s₀.run p ms evs).history = some h →
      h.sessionTtl = h₀.sessionTtl → KeptOrGone p ms s₀ evs k h₀ h →
        ∃ h, (s₀.run p ms (evs ++ evs')).history = some h ∧
          KeptOrGone p ms s₀ (evs ++ evs') k h₀ h
  | [], evs, _, h, hs, _, r => ⟨h, by rwa [List.append_nil], by rwa [List.append_nil]⟩
  | e :: evs', evs, hk, _, hs, hT, r => by
    obtain ⟨h', hs', hT', r'⟩ := KeptOrGone.step hK₀ hs hT (hk e (.head _)) r
    rw [List.append_cons]
    exact run_keptOrGone hK₀ evs' (evs ++ [e]) (fun e' he' => hk e' (.tail _ he')) hs' hT' r'

/-- Under every interleaving of relay halves, from `ConversationHistory(max_turns, ttl)` with
`max_turns ≥ 1` and any phases, whatever the messages, the upstream's answers and the clock
readings: every session holds at most `2 * max_turns` turns, and a session has turns exactly
when it has a `_last_seen` stamp, so no session escapes the stale sweep. -/
theorem interleaved_store_bounded (p : WebhookRelayPipeline) (ms : Nat → WebhookMessage)
    (maxTurns ttl : Int) (hm : 1 ≤ maxTurns) (phase : Nat → Phase) (evs : List Event) :
    ∃ h, (Sys.run p ms ⟨some (ConversationHistory.new maxTurns ttl), phase⟩ evs).history =
        some h ∧
      ∀ k, (h.get k).length ≤ 2 * maxTurns.toNat ∧
        ((h.store.get? k).isSome ↔ (h.lastSeen.get? k).isSome) := by
  obtain ⟨ops, hops⟩ := @Sys.run_history_run p ms (ConversationHistory.new maxTurns ttl) evs
    ⟨some (ConversationHistory.new maxTurns ttl), phase⟩ ⟨[], rfl⟩
  have r := (refines_new maxTurns ttl).run (by omega) ops
  refine ⟨_, hops, fun k => ⟨?_, by simp [r.store k, r.lastSeen k]⟩⟩
  rw [r.get_eq]
  cases LogStore.run ttl LogStore.empty ops k with
  | none => simp
  | some e =>
    calc (ConversationHistory.truncate (maxTurns * 2) e.log).length
        ≤ (maxTurns * 2).toNat := ConversationHistory.length_truncate_le (by omega) e.log
      _ = 2 * maxTurns.toNat := by omega

theorem interleaved_store_bounded_two_relays :
    let p : WebhookRelayPipeline := ⟨fun s => .ok s, "", "", none, none, none, false, none⟩
    let ms : Nat → WebhookMessage := fun j =>
      { source := "telegram", text := "hi", senderId := if j = 0 then "a" else "b" }
    let evs := [Event.begin 0 ⟨0, 0, 0⟩, .begin 1 ⟨1, 1, 1⟩, .finish 1 ⟨"ok", 200⟩ 2,
      .finish 0 ⟨"ok", 200⟩ 3]
    (1 : Int) ≤ 1 ∧
    ∃ h, (Sys.run p ms ⟨some (ConversationHistory.new 1 60), fun _ => .idle⟩ evs).history =
        some h ∧
      ∀ k, (h.get k).length ≤ 2 * (1 : Int).toNat ∧
        ((h.store.get? k).isSome ↔ (h.lastSeen.get? k).isSome) :=
  ⟨by decide, interleaved_store_bounded _ _ 1 60 (by decide) _ _⟩

/-- In every interleaving from idle relays, whatever the other relays did while relay `i`
waited (their sweeps included), relay `i`'s `finish` leaves the store as it was, or, on a 200,
appends exactly that reply to the session `source:sender_id` of relay `i`'s own message. -/
theorem interleaved_reply_own_session (p : WebhookRelayPipeline) (ms : Nat → WebhookMessage)
    (h₀ : Option ConversationHistory) (pre : List Event) (i : Nat) (resp : WebhookResponse)
    (stamp : Int) :
    ((Sys.run p ms ⟨h₀, fun _ => .idle⟩ pre).step p ms (.finish i resp stamp)).history =
        (Sys.run p ms ⟨h₀, fun _ => .idle⟩ pre).history ∨
      resp.statusCode = 200 ∧
        ((Sys.run p ms ⟨h₀, fun _ => .idle⟩ pre).step p ms (.finish i resp stamp)).history =
          (Sys.run p ms ⟨h₀, fun _ => .idle⟩ pre).history.map
            (·.appendAssistant (sessionKey (ms i)) resp.text stamp) := by
  have hK : Sys.Keyed ms (Sys.run p ms ⟨h₀, fun _ => .idle⟩ pre) :=
    Sys.run_inv _ (fun _ e h => h.step e) pre (fun _ _ h => by cases h)
  rcases Sys.step_finish_history i resp stamp with h' | ⟨pend, hi, h200, h'⟩
  · exact .inl h'
  · exact .inr ⟨h200, by rw [h', hK i pend hi]⟩

/-- In every interleaving from idle relays in which no relay of session `k` takes a step,
whatever the messages, the upstream's answers and the clock readings, session `k` ends as it
began, turns and stamp, or evicted from both dicts by the stale sweep of another relay's
`append_user`, run while that relay was idle and passed the gates, at a clock reading more than
the TTL after `k`'s stamp: no relay writes into another relay's session. -/
theorem interleaved_isolates_sessions (p : WebhookRelayPipeline) (ms : Nat → WebhookMessage)
    (h₀ : ConversationHistory) (evs : List Event) (k : String)
    (hk : ∀ e ∈ evs, sessionKey (ms e.relay) ≠ k) :
    ∃ h, (Sys.run p ms ⟨some h₀, fun _ => .idle⟩ evs).history = some h ∧
      ((h.store.get? k = h₀.store.get? k ∧ h.lastSeen.get? k = h₀.lastSeen.get? k) ∨
        (h.store.get? k = none ∧ h.lastSeen.get? k = none ∧
          ∃ ts, h₀.lastSeen.get? k = some ts ∧ ∃ j clk,
            Sys.Sweeps p ms ⟨some h₀, fun _ => .idle⟩ evs j clk ∧
            clk.sweep - ts > h₀.sessionTtl)) :=
  Sys.run_keptOrGone (fun _ _ h => by cases h) evs [] hk rfl rfl (.inl ⟨rfl, rfl⟩)

theorem interleaved_isolates_sessions_other_sender :
    let p : WebhookRelayPipeline := ⟨fun s => .ok s, "", "", none, none, none, false, none⟩
    let ms : Nat → WebhookMessage := fun j =>
      { source := "telegram", text := "hi", senderId := if j = 0 then "a" else "b" }
    let evs := [Event.begin 1 ⟨1, 1, 1⟩, .finish 1 ⟨"ok", 200⟩ 2]
    (∀ e ∈ evs, sessionKey (ms e.relay) ≠ "telegram:a") ∧
      ∃ h, (Sys.run p ms ⟨some (ConversationHistory.new 1 60), fun _ => .idle⟩ evs).history =
          some h ∧
        ((h.store.get? "telegram:a" = (ConversationHistory.new 1 60).store.get? "telegram:a" ∧
            h.lastSeen.get? "telegram:a" =
              (ConversationHistory.new 1 60).lastSeen.get? "telegram:a") ∨
          (h.store.get? "telegram:a" = none ∧ h.lastSeen.get? "telegram:a" = none ∧
            ∃ ts, (ConversationHistory.new 1 60).lastSeen.get? "telegram:a" = some ts ∧ ∃ j clk,
              Sys.Sweeps p ms ⟨some (ConversationHistory.new 1 60), fun _ => .idle⟩ evs j clk ∧
              clk.sweep - ts > (ConversationHistory.new 1 60).sessionTtl)) :=
  ⟨by decide, interleaved_isolates_sessions _ _ _ _ _ (by decide)⟩

end WebhookRelay.Relay
