import SharedTodo.Proofs.Exchange.Effects
import SharedTodo.Proofs.Exchange.Sequential

/-!
# A store with one shared todo

A todo that has been sent and nothing else: a consistent store in which every kind of list but the own one
has an entry, to start sessions from.
-/

namespace SharedTodo

/-- What is stored after one todo has been sent: both halves, and no other records. -/
structure Store.SentTodo (store : Store) (sender receiver : UserId) (sent received : IssueId) : Prop where
  consistent : store.Consistent
  out : ∃ entry ∈ (store.lists sender).list .out, entry.id = sent ∧ entry.link = some ⟨receiver, received⟩
  inbox : ∃ entry ∈ (store.lists receiver).list .inbox,
    entry.id = received ∧ entry.link = some ⟨sender, sent⟩
  records : ∀ id, store.find? (Issue.key id) ≠ none → id = sent ∨ id = received

theorem Exchange.exists_sentTodo {sender receiver : UserId} (hother : sender ≠ receiver) {sent received : IssueId}
    (hne : received ≠ sent) : ∃ s, Performed s ∧ s.store.SentTodo sender receiver sent received := by
  obtain ⟨s, hsend, horderly, hview⟩ := @reaches_send_initial False sender ⟨5, 5⟩ receiver hother
    ⟨"milk", none, none⟩ sent received hne
  have hrun : Reaches False ((Action.send sender receiver ⟨"milk", none, none⟩).program ⟨5, 5⟩) .initial
      (pure ()) s :=
    hsend.bind (.refl _ _)
  have hperformed : Performed s := .perform .initial _ _ hrun
  refine ⟨s, hperformed, hperformed.settled.consistent, ?_, ?_, fun id hid => ?_⟩
  · have hholds : s.view.holds sender .out (.linked sent ⟨receiver, received⟩) := by
      rw [hview]
      exact .inl ⟨.inr ⟨rfl, rfl⟩, nofun⟩
    exact ⟨_, hholds, rfl, rfl⟩
  · have hholds : s.view.holds receiver .inbox (.linked received ⟨sender, sent⟩) := by
      rw [hview]
      exact .inr ⟨rfl, rfl⟩
    exact ⟨_, hholds, rfl, rfl⟩
  · rw [Ne, horderly.find?_eq_none_iff] at hid
    have hrecord : s.view.record id ≠ none := hid
    rw [hview, View.revise_record, View.halfSent, View.revise_record, View.record_written_ne_none,
      View.record_written_ne_none] at hrecord
    obtain hreceived | hsent | hinitial := hrecord
    · exact .inr hreceived
    · exact .inl hsent
    · exact absurd rfl hinitial

/-- Amy has sent ben a todo. -/
theorem Exchange.exists_sentTodo_counted :
    ∃ store : Store, store.SentTodo ⟨"amy"⟩ ⟨"ben"⟩ (World.counted 0) (World.counted 1) := by
  obtain ⟨s, -, hstore⟩ := @exists_sentTodo ⟨"amy"⟩ ⟨"ben"⟩ (by decide) (World.counted 0) (World.counted 1)
    (by decide)
  exact ⟨s.store, hstore⟩

/-- The identifiers that come after those of the two halves have no records. -/
theorem Store.SentTodo.fresh {store : Store} {sender receiver : UserId}
    (h : store.SentTodo sender receiver (World.counted 0) (World.counted 1)) (known : List Profile) :
    Exchange.Fresh (Session.resumed store 2 known).around (Session.resumed store 2 known).scene := by
  intro n hn
  refine Classical.byContradiction fun hrecord => ?_
  have hid := h.records (World.counted (2 + n)) hrecord
  obtain rfl | rfl : n = 0 ∨ n = 1 := by omega
  · exact absurd hid (by decide)
  · exact absurd hid (by decide)

end SharedTodo
