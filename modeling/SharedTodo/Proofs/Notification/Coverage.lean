import SharedTodo.Proofs.Exchange.Deletion
import SharedTodo.Proofs.Notification.Telling

/-!
# Every change is announced

In a consistent store a command or a request that changes a list of some user, its order or its entries or a
record of an issue in it, tells this user to load the list again. That goes for all commands and for all
requests but reassignments (`changes_announced`). What an operation reports bounds the lists that it touches,
and the handler names these lists or more to their users.
-/

namespace SharedTodo

open Program

/-- An entry that has lost its record has other contents. -/
theorem Store.contents_ne_of_deleted {store store' : Store} {user : UserId} {kind : ListKind} {entry : Entry}
    (held : entry ∈ (store.lists user).list kind) (hrecord : store.find? (Issue.key entry.id) ≠ none)
    (hgone : store'.find? (Issue.key entry.id) = none) : store'.contents user kind ≠ store.contents user kind := by
  intro hsame
  have hmem : (entry, store.find? (Issue.key entry.id)) ∈ store.contents user kind :=
    List.mem_map_of_mem held
  rw [← hsame] at hmem
  obtain ⟨other, -, hpair⟩ := List.mem_map.1 hmem
  obtain ⟨rfl, hfound⟩ := Prod.mk.inj hpair
  exact hrecord (hfound.symm.trans hgone)

/-- Whoever has a list with other contents afterwards has been told to load it. -/
def Scene.Announced (s s' : Scene) : Prop :=
  ∃ new, s'.sent = s.sent ++ new ∧
    ∀ user kind, s'.store.contents user kind ≠ s.store.contents user kind →
      kind ∈ Notification.refreshedFor user new

namespace Scene

theorem Aside.announced {s s' : Scene} (h : s.Aside s') : s.Announced s' := by
  obtain ⟨new, hnew⟩ := h.sent
  refine ⟨new, hnew.symm, fun user kind hchanged => absurd ?_ hchanged⟩
  rw [Store.contents, Store.contents, Store.lists_eq (h.lists user)]
  exact List.map_congr_left fun entry _ => by rw [h.records]

theorem Announced.refl (s : Scene) : s.Announced s :=
  (Aside.refl s).announced

theorem Announced.of_touches {s s' : Scene} (hsent : s'.sent = s.sent)
    (htouches : s.store.Touches .none s'.store) : s.Announced s' :=
  ⟨[], by rw [hsent, List.append_nil], fun user kind hchanged => absurd (htouches user kind id) hchanged⟩

end Scene

section

variable {δ α β : Type} {around : Surroundings} {s : Scene} {limits : Exchange.Limits} {user : UserId}

/-- A handler that names the lists its operation has touched. -/
theorem ensures_announced (hup : around.delivers = true) {view : OperationError → δ} {touched : α → ListSet}
    {operation : Exchange.Operation α} (h : operation.Ensures around (Exchange.Effect touched s) s) :
    operation.Ensures around
      (thenTold around view touched fun (_ : Outcome δ β) s' => s.Announced s') s := by
  refine ensures_mono h fun outcome s₁ heffect => ?_
  cases outcome with
  | ok report =>
    intro value s' hheard
    obtain ⟨new, hsent, hnew⟩ := hheard.sent
    refine ⟨new, by rw [hsent, heffect.1], fun user kind hchanged => (hnew hup user kind).2 ?_⟩
    refine Classical.byContradiction fun hnot => hchanged ?_
    rw [hheard.store]
    exact heffect.2 user kind hnot
  | error failure => exact .of_touches heffect.1 heffect.2
  | unfinished => exact .of_touches heffect.1 heffect.2

variable (hup : around.delivers = true) (h : s.store.Consistent) (hfresh : Exchange.Fresh around s)

include hup h hfresh

namespace Request

theorem announced_handleAdd (draft : Draft) :
    (handleAdd limits user draft).Ensures around (fun _ s' => s.Announced s') s :=
  ensures_handleAdd (ensures_announced hup (Exchange.effect_add h hfresh draft))

theorem announced_handleSend (draft : Draft) (username : String) :
    (handleSend limits user draft username).Ensures around (fun _ s' => s.Announced s') s := by
  refine ensures_bind (ensures_findUser (fun receiver _ => ?_) fun _ _ => .refl s)
  rw [andThen]
  split
  · exact announced_handleAdd hup h hfresh draft
  · refine ensures_sendTo (fun _ _ hheard => hheard.aside.announced) fun _ => ?_
    exact ensures_announced hup (Exchange.effect_send h hfresh receiver.id draft)

theorem announced_handle {request : Request} (hrequest : request.kind ≠ .reassign) :
    (handle limits user request).Ensures around (fun _ s' => s.Announced s') s := by
  cases request with
  | add draft receiver =>
    cases receiver with
    | none => exact announced_handleAdd hup h hfresh draft
    | some username => exact announced_handleSend hup h hfresh draft username
  | list kind reminder offset =>
    exact (aside_handleList kind reminder offset).mono (fun _ _ => Scene.Aside.announced) s
  | edit id change => exact ensures_handleEdit (ensures_announced hup (Exchange.effect_edit h id change))
  | complete id => exact ensures_handleComplete (ensures_announced hup (Exchange.effect_take h id))
  | accept id => exact ensures_handleAccept (ensures_announced hup (Exchange.effect_accept h id))
  | remove id => exact ensures_handleRemove (ensures_announced hup (Exchange.effect_remove h id))
  | bump id => exact ensures_handleBump (ensures_announced hup (Exchange.effect_bump h id))
  | reassign id username => exact absurd rfl hrequest

end Request

namespace Command

theorem announced_executeAdd (message : String) :
    (executeAdd limits user message).Ensures around (fun _ s' => s.Announced s') s :=
  ensures_executeAdd (fun _ => .refl s) fun draft =>
    ensures_announced hup (Exchange.effect_add h hfresh draft)

theorem announced_perform (command : Command) :
    (command.perform limits user).Ensures around (fun _ s' => s.Announced s') s := by
  have haside {program : Program Failure String} (haside : program.Keeps around Scene.Aside) :
      program.Ensures around (fun _ s' => s.Announced s') s :=
    haside.mono (fun _ _ => Scene.Aside.announced) s
  cases command with
  | list kind => exact haside (aside_executeList user kind)
  | add message => exact announced_executeAdd hup h hfresh message
  | pop => exact ensures_executePop (fun _ _ hend => hend) (ensures_announced hup (Exchange.effect_pop h))
  | send username message =>
    exact ensures_executeSend (fun _ => .refl s) (fun _ => .refl s) (announced_executeAdd hup h hfresh message)
      fun receiver draft _ => ensures_announced hup (Exchange.effect_send h hfresh receiver.id draft)
  | showSettings => exact haside (aside_executeShowSettings user)
  | showSetting setting => exact haside (aside_executeShowSetting user setting)
  | switch setting on => exact haside (aside_executeSwitch setting on)
  | help => exact .refl s

end Command

end

/-! ## Sessions -/

namespace Session

variable {ε : Type}

/-- In a consistent store no command, and no request but a reassignment, changes the contents of anybody's
list without a notification that tells the user to load it. -/
theorem changes_announced {session : Session} (h : session.Undisturbed) (hup : session.notifierDown = false)
    (hconsistent : session.world.store.Consistent) (hfresh : Exchange.Fresh session.around session.scene)
    (limits : Exchange.Limits) (user : UserId) :
    (∀ line, session.scene.Announced
      (session.run (Command.execute limits user line : Program ε String)).2.scene) ∧
    ∀ name body, (∀ id username, Request.decode name body ≠ .ok (.reassign id username)) →
      session.scene.Announced (session.run (Request.handleNamed limits user name body)).2.scene := by
  have hdelivers : session.around.delivers = true := by simp [around, hup]
  constructor
  · intro line
    exact run_of_ensures (fun _ s' => session.scene.Announced s') h
      (Command.ensures_execute session.scene.Announced (.refl session.scene) fun command =>
        Command.announced_perform hdelivers hconsistent hfresh command)
  · intro name body hrequest
    refine run_of_ensures (fun _ s' => session.scene.Announced s') h ?_
    rw [Request.handleNamed]
    cases hdecode : Request.decode name body with
    | error failure => exact .refl session.scene
    | ok request =>
      refine Request.announced_handle hdelivers hconsistent hfresh fun hkind => ?_
      cases request with
      | reassign id username => exact hrequest id username hdecode
      | _ => cases hkind

/-- A shared todo that is held is completed, and neither half has a record then. -/
theorem completed_shared {session : Session} (h : session.Undisturbed) (hconsistent : session.world.store.Consistent)
    (limits : Exchange.Limits) {user : UserId} {kind : ListKind} {entry : Entry} {link : Link} {name body : String}
    (held : entry ∈ (session.world.store.lists user).list kind) (hlink : entry.link = some link)
    (hdecode : Request.decode name body = .ok (.complete entry.id)) :
    let completed := session.run (Request.handleNamed limits user name body)
    (∃ response, completed.1 = .ok response) ∧
      completed.2.world.store.find? (Issue.key entry.id) = none ∧
      completed.2.world.store.find? (Issue.key link.issue) = none := by
  refine run_of_ensures (fun outcome s' => (∃ response, outcome = .ok response) ∧
    s'.store.find? (Issue.key entry.id) = none ∧ s'.store.find? (Issue.key link.issue) = none) h ?_
  rw [Request.handleNamed, hdecode]
  apply Request.ensures_handleComplete
  have hdeletes := @Exchange.deleted_take session.around session.scene limits user entry.id
    hconsistent.unique.orderly.readable hconsistent.other
  refine ensures_mono hdeletes fun outcome s₁ hdeleted => ?_
  obtain ⟨⟨issue, rfl⟩, hown, hother⟩ := hdeleted.of_linked hconsistent held hlink
  intro value s' hheard
  rw [hheard.store]
  exact ⟨⟨value, rfl⟩, hown, hother⟩

/-- Ben completes the todo that amy has sent him: his received todos and amy's sent ones are others then, and
both of them have been told. -/
theorem completion_announced :
    ∃ store : Store, store.SentTodo ⟨"amy"⟩ ⟨"ben"⟩ (World.counted 0) (World.counted 1) ∧
      let completed := (resumed store 2 []).run (Request.handleNamed ⟨5, 5⟩ ⟨"ben"⟩ "complete"
        "\x7b\"id\":\"00000000-0000-4000-8000-000000000002\"\x7d")
      (∃ response, completed.1 = .ok response) ∧
        completed.2.world.store.contents ⟨"ben"⟩ .inbox ≠ store.contents ⟨"ben"⟩ .inbox ∧
        completed.2.world.store.contents ⟨"amy"⟩ .out ≠ store.contents ⟨"amy"⟩ .out ∧
        .inbox ∈ Notification.refreshedFor ⟨"ben"⟩ completed.2.world.sent ∧
        .out ∈ Notification.refreshedFor ⟨"amy"⟩ completed.2.world.sent := by
  obtain ⟨store, hstore⟩ := Exchange.exists_sentTodo_counted
  have hdecode : Request.decode "complete" "\x7b\"id\":\"00000000-0000-4000-8000-000000000002\"\x7d" =
      .ok (.complete (World.counted 1)) := by
    rfl
  have hrecord {user : UserId} {kind : ListKind} {entry : Entry}
      (held : entry ∈ (store.lists user).list kind) : store.find? (Issue.key entry.id) ≠ none :=
    (hstore.consistent.recorded entry.id).2 ⟨user, kind, entry, held, rfl⟩
  obtain ⟨sent, hsent, hsentId, -⟩ := hstore.out
  obtain ⟨received, hreceived, hreceivedId, hlink⟩ := hstore.inbox
  obtain ⟨hdone, hown, hother⟩ := @completed_shared (resumed store 2 []) rfl hstore.consistent ⟨5, 5⟩ _ _ _ _
    "complete" _ hreceived hlink (hreceivedId ▸ hdecode)
  have hinbox := Store.contents_ne_of_deleted hreceived (hrecord hreceived) hown
  have hout := Store.contents_ne_of_deleted hsent (hrecord hsent) (hsentId ▸ hother)
  obtain ⟨new, hnew, htold⟩ := (@changes_announced Empty (resumed store 2 []) rfl rfl hstore.consistent
    (hstore.fresh []) ⟨5, 5⟩ ⟨"ben"⟩).2 "complete" _ fun id username hreassign =>
      nomatch hdecode.symm.trans hreassign
  -- nobody had been told anything before
  obtain rfl : _ = new := hnew
  exact ⟨store, hstore, hdone, hinbox, hout, htold ⟨"ben"⟩ .inbox hinbox, htold ⟨"amy"⟩ .out hout⟩

end Session

end SharedTodo
