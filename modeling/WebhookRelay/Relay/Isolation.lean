import WebhookRelay.Relay.ShortCircuit

/-!
# Sessions are isolated

The session key `source:sender_id` determines its two parts when the source has no `:`, so two
messages with different (source, sender) pairs have different keys. A relay on one key then
leaves every other key's entry as it was, except that its stale sweep may drop the entry whole,
and only when the entry is stale at the sweep's clock reading (`KeptOrSwept`).
-/

namespace WebhookRelay.Relay

open Python History

theorem append_sep_inj {c : Char} {x₁ x₂ z₁ z₂ : List Char} (h₁ : c ∉ x₁) (h₂ : c ∉ x₂)
    (h : x₁ ++ c :: z₁ = x₂ ++ c :: z₂) : x₁ = x₂ ∧ z₁ = z₂ := by
  induction x₁ generalizing x₂ with
  | nil => cases x₂ <;> simp_all [eq_comm]
  | cons a x₁ ih =>
    cases x₂ with
    | nil => simp_all [eq_comm]
    | cons b x₂ =>
      simp only [List.cons_append, List.cons.injEq, List.mem_cons, not_or] at h h₁ h₂
      obtain ⟨rfl, hx⟩ := ih h₁.2 h₂.2 h.2
      simp [h.1, hx]

/-- With no `:` in the sources, the session key determines the source and the sender. -/
theorem sessionKey_inj {m₁ m₂ : WebhookMessage} (h₁ : ':' ∉ m₁.source.toList)
    (h₂ : ':' ∉ m₂.source.toList) (h : sessionKey m₁ = sessionKey m₂) :
    m₁.source = m₂.source ∧ m₁.senderId = m₂.senderId := by
  have hl := congrArg String.data h
  simp only [sessionKey, String.data_append] at hl
  obtain ⟨hs, hi⟩ := append_sep_inj h₁ h₂ (by simpa using hl)
  exact ⟨String.ext hs, String.ext hi⟩

/-- `h'` holds session `k` as `h` did, or the sweep at `now` dropped it, stale. -/
def KeptOrSwept (k : String) (now : Int) (h h' : ConversationHistory) : Prop :=
  (h'.store.get? k = h.store.get? k ∧ h'.lastSeen.get? k = h.lastSeen.get? k) ∨
    (h'.store.get? k = none ∧ h'.lastSeen.get? k = none ∧
      ∃ ts, h.lastSeen.get? k = some ts ∧ now - ts > h.sessionTtl)

namespace KeptOrSwept

variable {k : String} {now : Int} {h h' : ConversationHistory}

theorem refl : KeptOrSwept k now h h := .inl ⟨rfl, rfl⟩

/-- `append_user` on another session keeps `k` or sweeps it. -/
theorem appendUser {k' : String} (hk : k' ≠ k) (c : String) (stamp : Int) :
    KeptOrSwept k now h (h.appendUser k' c now stamp) := by
  simp only [KeptOrSwept, ConversationHistory.appendUser,
    ConversationHistory.appendTurn_store_ne _ hk, ConversationHistory.appendTurn_lastSeen_ne _ hk,
    ConversationHistory.evictStaleSessions_store, ConversationHistory.evictStaleSessions_lastSeen]
  by_cases hst : h.isStale now k
  · exact .inr ⟨by simp [hst], by simp [hst], (h.isStale_iff k now).1 hst⟩
  · exact .inl ⟨by simp [hst], by simp [hst]⟩

/-- A later `append_assistant` on another session changes nothing at `k`. -/
theorem appendAssistant (r : KeptOrSwept k now h h') {k' : String} (hk : k' ≠ k) (c : String)
    (stamp : Int) : KeptOrSwept k now h (h'.appendAssistant k' c stamp) := by
  simpa only [KeptOrSwept, ConversationHistory.appendAssistant,
    ConversationHistory.appendTurn_store_ne _ hk, ConversationHistory.appendTurn_lastSeen_ne _ hk]
    using r

end KeptOrSwept

/-- Relaying `m₁` keeps the entry of every other session key, or its sweep drops it stale. -/
theorem relay_keeps_other_session (p : WebhookRelayPipeline) (forward : ChatRequest → WebhookResponse)
    (m : WebhookMessage) (clk : Clocks) {k : String} (hk : sessionKey m ≠ k)
    {h h' : ConversationHistory} (hh : p.conversationHistory = some h)
    (hh' : (relay p forward m clk).history = some h') : KeptOrSwept k clk.sweep h h' := by
  rcases hg : gates p m with ⟨r, c⟩ | ⟨cleanText, c⟩
  · rw [relay_of_gates_error hg, hh] at hh'
    cases hh'
    exact .refl
  · rw [relay_history_of_gates_ok hg, hh] at hh'
    simp only [Option.map_some', Option.some.injEq] at hh'
    subst hh'
    have := @KeptOrSwept.appendUser _ clk.sweep h _ hk (historyText cleanText m.attachments) clk.user
    split_ifs
    · exact this.appendAssistant hk _ _
    · exact this

/-- Two messages whose sources carry no `:` and whose (source, sender) pairs differ have
different session keys, and relaying the first leaves the second's history as it was, except
that the first's stale sweep may drop it whole, and only when its last activity is more than
the TTL before the sweep's clock reading. -/
theorem relay_isolates_sessions (p : WebhookRelayPipeline)
    (forward : ChatRequest → WebhookResponse) (m₁ m₂ : WebhookMessage) (clk : Clocks)
    (h₁ : ':' ∉ m₁.source.toList) (h₂ : ':' ∉ m₂.source.toList)
    (hne : (m₁.source, m₁.senderId) ≠ (m₂.source, m₂.senderId)) :
    sessionKey m₁ ≠ sessionKey m₂ ∧
      ∀ h h', p.conversationHistory = some h → (relay p forward m₁ clk).history = some h' →
        (h'.store.get? (sessionKey m₂) = h.store.get? (sessionKey m₂) ∧
            h'.lastSeen.get? (sessionKey m₂) = h.lastSeen.get? (sessionKey m₂)) ∨
          (h'.store.get? (sessionKey m₂) = none ∧ h'.lastSeen.get? (sessionKey m₂) = none ∧
            ∃ ts, h.lastSeen.get? (sessionKey m₂) = some ts ∧ clk.sweep - ts > h.sessionTtl) := by
  have hk : sessionKey m₁ ≠ sessionKey m₂ := fun h => by
    obtain ⟨hs, hi⟩ := sessionKey_inj h₁ h₂ h
    exact hne (by rw [hs, hi])
  exact ⟨hk, fun h h' hh hh' => relay_keeps_other_session p forward m₁ clk hk hh hh'⟩

theorem relay_isolates_sessions_across_channels :
    let m₁ : WebhookMessage := { source := "telegram", text := "hi", senderId := "12345" }
    let m₂ : WebhookMessage := { source := "whatsapp", text := "hi", senderId := "12345" }
    let p : WebhookRelayPipeline :=
      ⟨fun s => .ok s, "", "", none, none, none, false, some ConversationHistory.new⟩
    let clk : Clocks := ⟨0, 0, 0⟩
    (':' ∉ m₁.source.toList ∧ ':' ∉ m₂.source.toList ∧
      (m₁.source, m₁.senderId) ≠ (m₂.source, m₂.senderId)) ∧
    sessionKey m₁ ≠ sessionKey m₂ ∧
      ∀ h h', p.conversationHistory = some h →
        (relay p (fun _ => ⟨"ok", 200⟩) m₁ clk).history = some h' →
        (h'.store.get? (sessionKey m₂) = h.store.get? (sessionKey m₂) ∧
            h'.lastSeen.get? (sessionKey m₂) = h.lastSeen.get? (sessionKey m₂)) ∨
          (h'.store.get? (sessionKey m₂) = none ∧ h'.lastSeen.get? (sessionKey m₂) = none ∧
            ∃ ts, h.lastSeen.get? (sessionKey m₂) = some ts ∧ clk.sweep - ts > h.sessionTtl) :=
  ⟨by decide, relay_isolates_sessions _ _ _ _ _ (by decide) (by decide) (by decide)⟩

end WebhookRelay.Relay
