import SharedTodo.Proofs.Documents
import SharedTodo.Proofs.Preferences.Blocking
import SharedTodo.Proofs.Program.Agreement
import SharedTodo.Proofs.Text.Words

/-!
# Sending in chat and by a request

A todo is sent by a line in chat or by a request, and it makes no difference which: the store is the same
afterwards, and so are the notifications. The line and the body are read in different ways, and signs in front
of the receiver's name are taken off one by one or all at once, but it is the same user who is looked for.

The one difference is in what is told when the receiver blocks todos: in chat the caller reads it in the
answer, and after a request in a direct message. Nothing is stored then. Users are not blocked from sending
todos to themselves.
-/

namespace SharedTodo

open Json Program

/-! ## Reading -/

section

variable {name : String} {words : List String}

/-- One sign is taken off. -/
theorem Command.bare_receiverOfWord (name : String) :
    Directory.bare (receiverOfWord name).toList = Directory.bare name.toList := by
  rw [receiverOfWord]
  split
  · next rest hname => rw [String.toList_ofList, hname, Directory.bare_sign]
  · rfl

theorem Command.isWord_receiverOfWord (hblank : ∀ c ∈ name.toList, Text.isBlank c = false)
    (hsign : ∃ c ∈ name.toList, c ≠ '@') : Text.IsWord (receiverOfWord name).toList := by
  rw [receiverOfWord]
  split
  · next rest hname =>
    rw [hname] at hblank hsign
    obtain ⟨c, hc, hne⟩ := hsign
    rw [String.toList_ofList]
    refine ⟨fun hnil => ?_, fun d hd => hblank d (List.mem_cons_of_mem _ hd)⟩
    obtain rfl | hc := List.mem_cons.1 hc
    · exact hne rfl
    · rw [hnil] at hc
      cases hc
  · obtain ⟨c, hc, -⟩ := hsign
    exact ⟨List.ne_nil_of_mem hc, hblank⟩

variable (hblank : ∀ c ∈ name.toList, Text.isBlank c = false) (hsign : ∃ c ∈ name.toList, c ≠ '@')

include hblank hsign

theorem isWord_name : Text.IsWord name.toList := by
  obtain ⟨c, hc, -⟩ := hsign
  exact ⟨List.ne_nil_of_mem hc, hblank⟩

/-- In chat the user is looked for by the same name. -/
theorem Command.wanted_receiverOfWord :
    Directory.wanted (receiverOfWord name) = Directory.wanted name := by
  rw [Directory.wanted_of_isWord (isWord_receiverOfWord hblank hsign),
    Directory.wanted_of_isWord (isWord_name hblank hsign), bare_receiverOfWord]

theorem Directory.toList_wanted : (wanted name).toList = bare name.toList := by
  rw [wanted_of_isWord (isWord_name hblank hsign), String.toList_ofList]

/-- So is a user who is looked for by what was made of the name. -/
theorem Directory.wanted_wanted : wanted (wanted name) = wanted name := by
  have hlist := toList_wanted hblank hsign
  have hword : Text.IsWord (wanted name).toList := hlist ▸ isWord_bare hblank hsign
  refine String.toList_inj.1 ?_
  rw [wanted_of_isWord hword, String.toList_ofList, hlist, bare_bare]

theorem Directory.wanted_ne_empty : wanted name ≠ "" := by
  intro hempty
  have hlist := toList_wanted hblank hsign
  rw [hempty] at hlist
  exact (isWord_bare hblank hsign).1 hlist.symm

section

variable (hwords : words ≠ []) (hmessage : ∀ word ∈ words, Text.IsWord word.toList)

include hwords hmessage

theorem Command.parse_send :
    parse ("/todo send " ++ name ++ " " ++ Text.unwords words) =
      .ok (.send (receiverOfWord name) (Text.unwords words)) := by
  obtain ⟨word, rest, rfl⟩ := List.exists_cons_of_ne_nil hwords
  have hline : "/todo send " ++ name ++ " " ++ Text.unwords (word :: rest) =
      Text.unwords (trigger :: "send" :: name :: word :: rest) := by
    rw [Text.unwords_cons_cons, Text.unwords_cons_cons, Text.unwords_cons_cons]
    refine String.toList_inj.1 ?_
    simp [trigger]
  have hreceiver : receiverOfWord name ≠ "" := by
    intro hempty
    have hword := isWord_receiverOfWord hblank hsign
    rw [hempty] at hword
    exact hword.1 rfl
  have hall : ∀ part ∈ trigger :: "send" :: name :: word :: rest, Text.IsWord part.toList := by
    refine List.forall_mem_cons.2 ⟨by simp [Text.IsWord, Text.isBlank, trigger], ?_⟩
    refine List.forall_mem_cons.2 ⟨by simp [Text.IsWord, Text.isBlank], ?_⟩
    exact List.forall_mem_cons.2 ⟨isWord_name hblank hsign, hmessage⟩
  rw [parse, hline, Text.words_unwords hall, ofWords, if_pos (Text.sameFolded_self trigger)]
  refine if_neg ?_
  rintro (hnone | hempty)
  · cases hnone
  · exact hreceiver hempty

omit hblank hsign in
theorem Draft.ofMessage_unwords :
    ofMessage (Text.unwords words) = .ok ⟨Text.unwords words, none, none⟩ := by
  obtain ⟨hblank, htrim⟩ := Text.trim_unwords hwords hmessage
  rw [ofMessage, messageOfInput, hblank, htrim]
  rfl

theorem Request.decode_send {body : String}
    (hbody : readBody AddBody.codec body = .ok ⟨Text.unwords words, "", name, ""⟩) :
    decode "add" body = .ok (.add ⟨Text.unwords words, none, none⟩ (some (Directory.wanted name))) := by
  have hdraft : draftOfBody ⟨Text.unwords words, "", name, ""⟩ = .ok ⟨Text.unwords words, none, none⟩ := by
    rw [draftOfBody, Draft.ofMessage_unwords hwords hmessage]
    rfl
  have hreceiver : receiverOfBody ⟨Text.unwords words, "", name, ""⟩ = some (Directory.wanted name) :=
    if_neg (Directory.wanted_ne_empty hblank hsign)
  show decodeAdd body = _
  rw [decodeAdd, hbody, ← hreceiver]
  show (draftOfBody _ >>= _) = _
  rw [hdraft]
  rfl

end

end

theorem Request.AddBody.lawful_codec : AddBody.codec.Lawful := by
  refine Codec.Lawful.mapped (Record.lawful_codec _ (by decide) ?_) fun _ => rfl
  intro field h
  simp only [List.mem_cons, List.not_mem_nil, or_false] at h
  rcases h with rfl | rfl | rfl | rfl <;> exact Field.lawful_defaulting _ Codec.Lawful.text ""

/-- What has been written as a body is read back. -/
theorem Request.readBody_of_lawful {α : Type} {codec : Codec α} (h : codec.Lawful) {body : α}
    (hblank : Text.isBlankText (codec.encode body) = false) : readBody codec (codec.encode body) = .ok body := by
  rw [readBody, hblank]
  exact congrArg (Except.mapError Failure.unreadable) (h.decode_encode body)

/-- Every message and every name stand in some body. -/
theorem Request.readBody_encode (body : AddBody) :
    readBody AddBody.codec (AddBody.codec.encode body) = .ok body := by
  refine readBody_of_lawful AddBody.lawful_codec ?_
  rw [Text.isBlankText, Codec.encode, String.toList_ofList]
  rfl

theorem Request.IdBody.lawful_codec : IdBody.codec.Lawful := by
  refine Codec.Lawful.mapped (Record.lawful_codec _ (by decide) ?_) fun _ => rfl
  intro field h
  rw [List.mem_singleton.1 h]
  exact Field.lawful_defaulting _ Codec.Lawful.text ""

/-- Every issue can be named in a request to accept it. -/
theorem Request.decode_accept (id : IssueId) :
    decode Kind.accept.name (IdBody.codec.encode ⟨id.text⟩) = .ok (.accept id) := by
  have hbody : readBody IdBody.codec (IdBody.codec.encode ⟨id.text⟩) = .ok ⟨id.text⟩ := by
    refine readBody_of_lawful IdBody.lawful_codec ?_
    rw [Text.isBlankText, Codec.encode, String.toList_ofList]
    rfl
  have hread : readId id.text = .ok id := by
    rw [readId, id.ofInput_text]
    rfl
  rw [decode, Kind.ofName?_name]
  simp only [decodeKind, decodeId, hbody, Bind.bind, Except.bind, hread, Except.map]

/-! ## Doing -/

namespace Session

variable {ε : Type} {session : Session} {limits : Exchange.Limits} {user : UserId} {message : String}

theorem draftOfMessage_eq (hmessage : Draft.ofMessage message = .ok ⟨message, none, none⟩) :
    Command.draftOfMessage message = pure ⟨message, none, none⟩ := by
  rw [Command.draftOfMessage, hmessage]
  rfl

theorem idle_withOwnList {around : Surroundings} (user : UserId) (reply : String) :
    (Command.withOwnList user reply).Idle around := by
  have hpure (text : String) : (pure text : Program Command.Failure String).Idle around := idle_pure text
  exact fun s => ensures_bind (ensures_attempt (ensures_of_idle (Exchange.idle_listing user .my)
    (fun items => hpure _ s) fun failure => hpure _ s))

/-- A todo of one's own. -/
theorem agree_add (h : session.Undisturbed)
    (hmessage : Draft.ofMessage message = .ok ⟨message, none, none⟩) :
    session.Agree (Command.executeAdd limits user message)
      (Request.handleAdd limits user ⟨message, none, none⟩) := by
  rw [Command.executeAdd, draftOfMessage_eq hmessage, pure_bind]
  refine agree_bind h fun issue later hlater => agree_perform hlater.1 fun _ later' hlater' => ?_
  exact agree_of_idle hlater'.1 (idle_withOwnList user _) (idle_bind (idle_resolve user) fun _ => idle_pure _)

/-- A todo for another user who does not block todos. -/
theorem agree_sendTo (h : session.Undisturbed)
    (hmessage : Draft.ofMessage message = .ok ⟨message, none, none⟩)
    {receiver : Profile} (hopen : ¬ session.world.store.Blocking receiver.id) :
    session.Agree (Command.sendTo limits user receiver message)
      (Request.sendTo limits user ⟨message, none, none⟩ receiver) := by
  have hallowed : (session.world.store.preferences receiver.id).allowIncoming = true :=
    Bool.of_not_eq_false fun hblocks => hopen (Store.blocking_iff.2 hblocks)
  rw [Command.sendTo, Request.sendTo,
    ← PreferenceStore.mapError_loadOrDefault receiver.id (Empty.elim : Empty → Command.Failure),
    ← PreferenceStore.mapError_loadOrDefault receiver.id (Empty.elim : Empty → Request.Failure)]
  have hloaded : (PreferenceStore.loadOrDefault receiver.id : Program Empty Preferences).Ensures session.around
      (fun outcome _ => ∀ prefs, outcome = .ok prefs → prefs.allowIncoming = true) session.scene := by
    refine PreferenceStore.ensures_loadOrDefault_preferences ?_
    rintro prefs ⟨⟩
    exact hallowed
  refine agree_of_ensures h hloaded fun prefs later hlater hprefs => ?_
  dsimp only
  have hallow : ¬ ¬ prefs.allowIncoming = true := not_not_intro (hprefs prefs rfl)
  rw [if_neg hallow, if_neg hallow, draftOfMessage_eq hmessage, pure_bind]
  refine agree_bind hlater.1 fun issue later₁ hlater₁ => ?_
  refine agree_perform hlater₁.1 fun _ later₂ hlater₂ => agree_perform hlater₂.1 fun _ later₃ hlater₃ => ?_
  rw [← Naming.mapError_resolve user (Empty.elim : Empty → Command.Failure),
    ← Naming.mapError_resolve user (Empty.elim : Empty → Request.Failure)]
  refine agree_bind hlater₃.1 fun name later₄ hlater₄ => agree_perform hlater₄.1 fun _ later₅ hlater₅ => ?_
  exact agree_of_idle hlater₅.1 (idle_pure _) (idle_pure _)

/-- The receiver is somebody else, and blocks todos. -/
def TurnsAway (session : Session) (user : UserId) (username : String) : Prop :=
  ∃ receiver, session.around.byUsername username = .ok (some receiver) ∧ receiver.id ≠ user ∧
    session.world.store.Blocking receiver.id

section

variable {username username' : String} (hname : Directory.wanted username = Directory.wanted username')

include hname

theorem run_send_found (limits : Exchange.Limits) (user : UserId) (message : String) {receiver : Profile}
    (hfound : session.around.byUsername username' = .ok (some receiver)) :
    session.run (Command.executeSend limits user username message) =
        session.run (if receiver.id = user then Command.executeAdd limits user message
          else Command.sendTo limits user receiver message) ∧
      session.run (Request.handleSend limits user ⟨message, none, none⟩ username') =
        session.run (if receiver.id = user then Request.handleAdd limits user ⟨message, none, none⟩
          else Request.sendTo limits user ⟨message, none, none⟩ receiver) := by
  rw [Command.executeSend, Request.handleSend, Program.findByUsername, Request.findUser, bind_assoc, bind_assoc,
    run_findByUsername, run_findByUsername, byUsername_congr hname, hfound]
  exact ⟨rfl, rfl⟩

/-- Nothing is done for a user who is not found. -/
theorem run_send_missed (limits : Exchange.Limits) (user : UserId) (message : String)
    (hmissed : ∀ receiver, session.around.byUsername username' ≠ .ok (some receiver)) :
    (session.run (Command.executeSend limits user username message)).2 = session ∧
      (session.run (Request.handleSend limits user ⟨message, none, none⟩ username')).2 = session := by
  rw [Command.executeSend, Request.handleSend, Program.findByUsername, Request.findUser, bind_assoc, bind_assoc,
    run_findByUsername, run_findByUsername, byUsername_congr hname]
  match hfound : session.around.byUsername username' with
  | .error failure => exact ⟨rfl, rfl⟩
  | .ok none => exact ⟨rfl, rfl⟩
  | .ok (some receiver) => exact absurd hfound (hmissed receiver)

theorem agree_send (h : session.Undisturbed) (limits : Exchange.Limits)
    (hmessage : Draft.ofMessage message = .ok ⟨message, none, none⟩)
    (haccepts : ¬ session.TurnsAway user username') :
    session.Agree (Command.executeSend limits user username message)
      (Request.handleSend limits user ⟨message, none, none⟩ username') := by
  by_cases hfound : ∃ receiver, session.around.byUsername username' = .ok (some receiver)
  · obtain ⟨receiver, hreceiver⟩ := hfound
    obtain ⟨hchat, hrequest⟩ := run_send_found hname limits user message hreceiver
    rw [Agree, hchat, hrequest]
    by_cases hself : receiver.id = user
    · rw [if_pos hself, if_pos hself]
      exact agree_add h hmessage
    · rw [if_neg hself, if_neg hself]
      exact agree_sendTo h hmessage fun hblocking => haccepts ⟨receiver, hreceiver, hself, hblocking⟩
  · obtain ⟨hchat, hrequest⟩ := run_send_missed hname limits user message
      fun receiver hreceiver => hfound ⟨receiver, hreceiver⟩
    rw [Agree, hchat, hrequest]

/-- Nothing is stored for a user who is turned away. -/
theorem store_send_turnedAway (h : session.Undisturbed) (haway : session.TurnsAway user username') :
    (session.run (Command.executeSend limits user username message)).2.world.store = session.world.store ∧
      (session.run (Request.handleSend limits user ⟨message, none, none⟩ username')).2.world.store =
        session.world.store := by
  obtain ⟨receiver, hreceiver, hother, hblocking⟩ := haway
  obtain ⟨hchat, hrequest⟩ := run_send_found hname limits user message hreceiver
  rw [hchat, hrequest, if_neg hother, if_neg hother]
  constructor
  · exact run_of_ensures (fun _ s' => s'.store = session.scene.store) h
      (Command.ensures_sendTo (fun _ => rfl) (fun _ => rfl) fun draft hasked => absurd hblocking hasked)
  · exact run_of_ensures (fun _ s' => s'.store = session.scene.store) h
      (Request.ensures_sendTo (fun _ _ hheard => hheard.store) fun hasked => absurd hblocking hasked)

end

/-- A line that is read is carried out. -/
theorem run_execute {line : String} {command : Command} (hparse : Command.parse line = .ok command) :
    (session.run (Command.execute limits user line : Program ε String)).2 =
      (session.run (command.perform limits user)).2 := by
  rw [Command.execute, hparse, run, run, run_bind, run_attempt]
  generalize (command.perform limits user).run perform session = ended
  obtain ⟨outcome, later⟩ := ended
  cases outcome <;> rfl

theorem run_handleNamed {name body : String} {request : Request}
    (hdecode : Request.decode name body = .ok request) :
    session.run (Request.handleNamed limits user name body) =
      session.run (Request.handle limits user request) := by
  rw [Request.handleNamed, hdecode]
  rfl

/-- Sending a message of words to a user comes to the same in chat and by a request. When the receiver is
somebody else who blocks todos nothing is stored, and otherwise users are told the same. -/
theorem chat_and_request_agree (h : session.Undisturbed) (limits : Exchange.Limits) (user : UserId)
    {name body : String} {words : List String} (hblank : ∀ c ∈ name.toList, Text.isBlank c = false)
    (hsign : ∃ c ∈ name.toList, c ≠ '@') (hwords : words ≠ [])
    (hmessage : ∀ word ∈ words, Text.IsWord word.toList)
    (hbody : Request.readBody Request.AddBody.codec body = .ok ⟨Text.unwords words, "", name, ""⟩) :
    let line := "/todo send " ++ name ++ " " ++ Text.unwords words
    let chat := (session.run (Command.execute limits user line : Program ε String)).2.world
    let request := (session.run (Request.handleNamed limits user "add" body)).2.world
    chat.store = request.store ∧
      (¬ session.TurnsAway user name → chat.sent = request.sent) ∧
      (session.TurnsAway user name → chat.store = session.world.store) := by
  intro line chat request
  have hchat : chat = (session.run (Command.executeSend limits user (Command.receiverOfWord name)
      (Text.unwords words))).2.world :=
    congrArg world (run_execute (Command.parse_send hblank hsign hwords hmessage))
  have hrequest : request = (session.run (Request.handleSend limits user ⟨Text.unwords words, none, none⟩
      (Directory.wanted name))).2.world :=
    congrArg (fun ended => ended.2.world)
      (run_handleNamed (Request.decode_send hblank hsign hwords hmessage hbody))
  have hwanted : Directory.wanted (Directory.wanted name) = Directory.wanted name :=
    Directory.wanted_wanted hblank hsign
  have hname := (Command.wanted_receiverOfWord hblank hsign).trans hwanted.symm
  have hiff : session.TurnsAway user (Directory.wanted name) ↔ session.TurnsAway user name := by
    rw [TurnsAway, TurnsAway, byUsername_congr hwanted]
  rw [hchat, hrequest]
  by_cases haway : session.TurnsAway user name
  · obtain ⟨hstore, hstore'⟩ := store_send_turnedAway hname h (hiff.2 haway)
    exact ⟨hstore.trans hstore'.symm, fun haccepts => absurd haway haccepts, fun _ => hstore⟩
  · have hagree := agree_send hname h limits (Draft.ofMessage_unwords hwords hmessage) (mt hiff.1 haway)
    exact ⟨congrArg Scene.store hagree, fun _ => congrArg Scene.sent hagree, fun hyes => absurd hyes haway⟩

/-- Amy sends ben a todo, first while he takes todos and again after he has blocked them. -/
theorem milk_sent_alike :
    let takes := resumed .empty 0 [⟨⟨"amy"⟩, "amy"⟩, ⟨⟨"ben"⟩, "ben"⟩]
    let chat (session : Session) :=
      (session.run (Command.execute ⟨5, 5⟩ ⟨"amy"⟩ "/todo send @ben milk" : Program Empty String)).2.world
    let request (session : Session) := (session.run (Request.handleNamed ⟨5, 5⟩ ⟨"amy"⟩ "add"
      "\x7b\"message\":\"milk\",\"send_to\":\"@ben\"\x7d")).2.world
    (chat takes).store = (request takes).store ∧ (chat takes).sent = (request takes).sent ∧
      (chat benBlocks).store = benBlocks.world.store ∧ (request benBlocks).store = benBlocks.world.store := by
  intro takes chat request
  have hline : "/todo send " ++ "@ben" ++ " " ++ Text.unwords ["milk"] = "/todo send @ben milk" := by
    decide
  have hblank : ∀ c ∈ "@ben".toList, Text.isBlank c = false := by
    simp [Text.isBlank]
  have hmessage : ∀ word ∈ ["milk"], Text.IsWord word.toList := by
    simp [Text.IsWord, Text.isBlank]
  have hbody : Request.readBody Request.AddBody.codec "\x7b\"message\":\"milk\",\"send_to\":\"@ben\"\x7d" =
      .ok ⟨Text.unwords ["milk"], "", "@ben", ""⟩ := by
    rfl
  have hagree {session : Session} (h : session.Undisturbed) :=
    @chat_and_request_agree Empty session h ⟨5, 5⟩ ⟨"amy"⟩ "@ben" _ ["milk"] hblank
      ⟨'b', by decide, by decide⟩ (by decide) hmessage hbody
  simp only [hline] at hagree
  have haccepts : ¬ takes.TurnsAway ⟨"amy"⟩ "@ben" := by
    rintro ⟨receiver, -, -, text, prefs, hfind, -⟩
    cases hfind
  have haway : benBlocks.TurnsAway ⟨"amy"⟩ "@ben" :=
    ⟨⟨⟨"ben"⟩, "ben"⟩, by decide +kernel, by decide, blocking_benBlocks⟩
  obtain ⟨hstore, hsent, -⟩ := hagree (show takes.Undisturbed from rfl)
  obtain ⟨hstore', -, hkept⟩ := hagree undisturbed_benBlocks
  exact ⟨hstore, hsent haccepts, hkept haway, hstore'.symm.trans (hkept haway)⟩

/-- A user who blocks todos gets the ones that they send to themselves: ben notes the milk in this way. -/
theorem changed_although_blocking :
    benBlocks.around.byUsername "ben" = .ok (some ⟨⟨"ben"⟩, "ben"⟩) ∧
      benBlocks.world.store.Blocking ⟨"ben"⟩ ∧
      (benBlocks.run (Command.execute ⟨5, 5⟩ ⟨"ben"⟩ "/todo send ben milk" :
        Program Empty String)).2.world.store ≠ benBlocks.world.store := by
  refine ⟨by decide +kernel, blocking_benBlocks, fun hsame => ?_⟩
  exact absurd (congrArg (fun store => (store.lists ⟨"ben"⟩).my.length) hsame) (by decide +kernel)

end Session

end SharedTodo
