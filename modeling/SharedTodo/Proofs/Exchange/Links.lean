import SharedTodo.Proofs.Exchange.Inversion
import SharedTodo.Proofs.Exchange.Records

/-!
# Links in transit

Between operations every link is mutual, one half in a list of sent todos and the other in another list. While
clients of different users are at work, each with one operation, a link may also lead to a half that is still
to be delivered, or to an entry that its holder has just given up (`Joined`). Whoever gives up an entry is
bound to look at the other half, and the links to an entry given up come from where its own link led. So what
is found there decides rightly: a half that links back belongs to this link and may go; a half that is missing
has been given up by its holder, or went before; and a half that links elsewhere has been reassigned.

When no client has anything left to do, `Joined` is what consistency asks of links and records.
-/

namespace SharedTodo.Exchange

/-- The link of an entry that a user has given up, or has given a new link or none. -/
structure Dissolves (view : View) (tasks : UserId → Task) (user : UserId) (own : IssueId) (link : Link) :
    Prop where
  other : link.user ≠ user
  /-- Links to the entry come from its counterpart. -/
  source : ∀ other kind id, view.Linked other kind id ⟨user, own⟩ → link = ⟨other, id⟩
  /-- The counterpart links back, unless it has a new link or none. -/
  back : ∀ kind entry, view.holds link.user kind entry → entry.id = link.issue →
    entry.link = some ⟨user, own⟩ ∨ (tasks link.user).spent = true
  /-- A counterpart that is given up as well was linked with this entry. -/
  facing : ∀ link', (tasks link.user).loose = some (link.issue, link') → link' = ⟨user, own⟩
  /-- An entry that is still listed has been reassigned. -/
  spent : view.Listed own → (tasks user).spent = true
  /-- A new link of the entry is to be delivered. -/
  anew : ∀ kind link', view.Linked user kind own link' → (tasks user).offer = some (own, link')

/-- Links and records, while each user has one client. -/
structure Joined (view : View) (tasks : UserId → Task) : Prop where
  other : ∀ user kind id link, view.Linked user kind id link → link.user ≠ user
  unlinked : ∀ user kind entry, view.holds user kind entry → entry.link = none → kind = .my
  paired : ∀ user kind id link, view.Linked user kind id link →
    (∃ kind', view.Linked link.user kind' link.issue ⟨user, id⟩ ∧ (kind = .out ↔ kind' ≠ .out)) ∨
      (kind = .out ∧ (tasks user).offer = some (id, link)) ∨
      (tasks link.user).loose = some (link.issue, ⟨user, id⟩)
  pointed : ∀ user kind id link, view.Linked user kind id link → view.record link.issue ≠ none
  recorded : ∀ id, view.record id ≠ none → view.Listed id ∨ ∃ user, (tasks user).Owes id
  offer : ∀ user own link, (tasks user).offer = some (own, link) →
    view.Linked user .out own link ∧ link.user ≠ user
  taken : ∀ user id, (tasks user).taken = some id → ∀ other kind id',
    view.Linked other kind id' ⟨user, id⟩ → (tasks user).loose = some (id, ⟨other, id'⟩)
  loose : ∀ user own link, (tasks user).loose = some (own, link) → Dissolves view tasks user own link
  orphan : ∀ user id, (tasks user).orphan = some id → ∀ other kind id' link,
    view.Linked other kind id' link → link.issue ≠ id

section

variable {stage stage' : IssueId → Stage UserId} {view view' : View} {tasks : UserId → Task}
  {user : UserId} {task' : Task}

/-! ## Stages of what is linked -/

/-- A state with one client for each user, in which listed todos have records. -/
structure InPlace (stage : IssueId → Stage UserId) (view : View) (tasks : UserId → Task) : Prop where
  ordered : Ordered id stage view tasks
  kept : Kept stage view tasks

namespace InPlace

variable (hin : InPlace stage view tasks)

include hin

theorem settled_of_listed {own : IssueId} (h : view.Listed own) : ∃ owner, stage own = .settled owner := by
  obtain ⟨owner, kind, entry, he, hid⟩ := h
  exact ⟨owner, by rw [← hid]; exact hin.ordered.placed.held owner kind entry he⟩

/-- A half that is still to be delivered has not been settled. -/
theorem not_offered {own : IssueId} {link : Link} {owner : UserId}
    (hoffer : (tasks user).offer = some (own, link)) : stage link.issue ≠ .settled owner := by
  rw [((hin.ordered.reserves user).offer own link hoffer).2]
  exact nofun

/-- What is still to be listed has not been settled. -/
theorem not_ready {own : IssueId} {owner : UserId} (hready : (tasks user).HasReady own) :
    stage own ≠ .settled owner := by
  obtain ⟨issue, hissue, rfl⟩ := hready
  rw [(hin.ordered.reserves user).ready issue hissue]
  exact nofun

/-- A link to what is settled with a user names that user. -/
theorem user_of_linked {other owner : UserId} {kind : ListKind} {own : IssueId} {link : Link}
    (hlinked : view.Linked other kind own link) (hsettled : stage link.issue = .settled owner) :
    link.user = owner := by
  obtain ⟨entry, he, -, hlink⟩ := hlinked
  rcases hin.ordered.placed.target other kind entry link he hlink with htarget | ⟨c, htarget⟩
  · rw [hsettled] at htarget
    exact (Stage.settled.inj htarget).symm
  · exact nomatch hsettled.symm.trans htarget

/-- Nothing links to what is still to be listed, unless it has been offered. -/
theorem not_linked_ready {other : UserId} {kind : ListKind} {own : IssueId} {link : Link}
    (hready : (tasks user).HasReady link.issue) : ¬ view.Linked other kind own link := by
  rintro ⟨entry, he, -, hlink⟩
  obtain ⟨issue, hissue, hid⟩ := hready
  have hstage := (hin.ordered.reserves user).ready issue hissue
  rw [hid] at hstage
  rcases hin.ordered.placed.target other kind entry link he hlink with htarget | ⟨c, htarget⟩
  · exact nomatch hstage.symm.trans htarget
  · exact nomatch hstage.symm.trans htarget

/-- An issue is listed with one link at most. -/
theorem linked_unique {other : UserId} {kind kind' : ListKind} {own : IssueId} {link link' : Link}
    (h : view.Linked other kind own link) (h' : view.Linked other kind' own link') :
    kind = kind' ∧ link = link' := by
  obtain ⟨entry, he, hid, hlink⟩ := h
  obtain ⟨entry', he', hid', hlink'⟩ := h'
  obtain ⟨rfl, rfl⟩ :=
    hin.ordered.placed.unique other kind kind' entry entry' he he' (hid.trans hid'.symm)
  exact ⟨rfl, Option.some.inj (hlink.symm.trans hlink')⟩

end InPlace

/-! ## What a client may rely on -/

variable (hin : InPlace stage view tasks) (h : Joined view tasks)

include hin h

/-- Links to an entry that can be given up come from where its own link leads. -/
theorem Joined.source (hfree : (tasks user).Free) {other : UserId} {kind : ListKind} {own id : IssueId}
    (hlisted : view.Listed own) (hlinked : view.Linked other kind id ⟨user, own⟩) :
    ∃ kind', view.Linked user kind' own ⟨other, id⟩ := by
  rcases h.paired other kind id _ hlinked with ⟨kind', hback, -⟩ | ⟨-, hoffer⟩ | hloose
  · exact ⟨kind', hback⟩
  · obtain ⟨owner, hsettled⟩ := hin.settled_of_listed hlisted
    exact absurd hsettled (hin.not_offered hoffer)
  · exact nomatch hfree.loose.symm.trans hloose

/-- The entry that an unspent link leads to links back, or its user's client is spent. -/
theorem Joined.back (hfree : (tasks user).Free) {kind kind' : ListKind} {own : IssueId} {link : Link}
    {entry : Entry} (hlinked : view.Linked user kind own link)
    (he : view.holds link.user kind' entry) (hid : entry.id = link.issue) :
    entry.link = some ⟨user, own⟩ ∨ (tasks link.user).spent = true := by
  rcases h.paired user kind own link hlinked with ⟨kind'', ⟨e, he', hid', hlink⟩, -⟩ | ⟨-, hoffer⟩ | hloose
  · obtain ⟨-, rfl⟩ := hin.ordered.placed.unique _ _ _ _ _ he he' (hid.trans hid'.symm)
    exact .inl hlink
  · exact nomatch hfree.offer.symm.trans hoffer
  · exact .inr ((h.loose link.user link.issue _ hloose).spent ⟨link.user, kind', entry, he, hid⟩)

/-- Free clients hold entries whose counterparts are settled. -/
theorem Joined.ties : Ties stage view user (tasks user) := by
  intro hfree kind entry link he hlink
  rcases hin.ordered.placed.target user kind entry link he hlink with hsettled | ⟨c, hoffered⟩
  · exact hsettled
  · obtain ⟨own, hoffer⟩ := (hin.ordered.reserves c).offered _ _ hoffered
    rcases h.paired user kind entry.id link ⟨entry, he, rfl, hlink⟩ with ⟨kind', hback, -⟩ | ⟨-, ho⟩ | hl
    · obtain ⟨owner, hsettled⟩ := hin.settled_of_listed hback.listed
      exact absurd hsettled (hin.not_offered hoffer)
    · exact nomatch hfree.offer.symm.trans ho
    · exact absurd ((hin.ordered.releases link.user).loose _ _ hl).1 (hin.not_offered hoffer)

/-- Only the entry that was given up can have been linked with a counterpart that does not link elsewhere. -/
theorem Joined.not_linked {own : IssueId} {link : Link} (tied : (tasks user).loose = some (own, link))
    (hback : ∀ kind link', view.Linked link.user kind link.issue link' → link' = ⟨user, own⟩)
    {other : UserId} {kind : ListKind} {id : IssueId} {link' : Link}
    (hlinked : view.Linked other kind id link') : link'.issue ≠ link.issue := by
  intro hissue
  have hsettled := (hin.kept.keeps user).loose own link tied
  have hd := h.loose user own link tied
  have hlink : link' = link := by
    have huser := hin.user_of_linked hlinked (hissue ▸ hsettled)
    cases link'
    cases link
    exact congr (congrArg Link.mk huser) hissue
  subst hlink
  have hnew : ⟨other, id⟩ = (⟨user, own⟩ : Link) → False := by
    intro he
    cases he
    exact hin.not_offered (hd.anew kind link' hlinked) hsettled
  rcases h.paired other kind id link' hlinked with ⟨kind', hm, -⟩ | ⟨-, hoffer⟩ | hloose
  · exact hnew (hback kind' _ hm)
  · exact hin.not_offered hoffer hsettled
  · exact hnew (hd.facing _ hloose)

/-- A link that is severed was not that of the entry that was given up. -/
theorem Joined.not_severed {own : IssueId} {link : Link} (tied : (tasks user).loose = some (own, link))
    {kind : ListKind} : ¬ view.Linked user kind own link := by
  intro hlinked
  have hoffer := (h.loose user own link tied).anew kind link hlinked
  exact hin.not_offered hoffer ((hin.kept.keeps user).loose own link tied)

/-! ## One act -/

variable (hact : Act user (tasks user) view task' view')

include hact

omit hin in
theorem Joined.other_act {other : UserId} {kind : ListKind} {id : IssueId} {link : Link}
    (hl : view'.Linked other kind id link) : link.user ≠ other := by
  rcases hact.linked hl with ⟨kind', hold, -⟩ | ⟨rfl, -, -, hne, -⟩ | ⟨huser, -, hoffer, -⟩
  · exact h.other other kind' id link hold
  · exact hne
  · have hne : other ≠ user := (h.offer user _ _ hoffer).2
    rw [huser]
    exact hne.symm

theorem Joined.paired_act {other : UserId} {kind : ListKind} {id : IssueId} {link : Link}
    (hl : view'.Linked other kind id link) :
    (∃ kind', view'.Linked link.user kind' link.issue ⟨other, id⟩ ∧ (kind = .out ↔ kind' ≠ .out)) ∨
      (kind = .out ∧ (Function.update tasks user task' other).offer = some (id, link)) ∨
      (Function.update tasks user task' link.user).loose = some (link.issue, ⟨other, id⟩) := by
  have hplaced := hin.ordered.placed
  rcases hact.linked hl with ⟨kind₀, hold, hk⟩ | ⟨rfl, hk, hoffer, -⟩ | ⟨huser, hk, hoffer, htied⟩
  · rw [← hk]
    rcases h.paired other kind₀ id link hold with ⟨kind₁, hback, hkinds⟩ | ⟨hout, hoffer⟩ | hloose
    · rcases hact.linked_before hplaced hback with
        ⟨kind₂, hback', hk₂⟩ | ⟨huser, -, hloose⟩ | ⟨huser, hsevered⟩
      · exact .inl ⟨kind₂, hback', by rw [hkinds, Ne, Ne, hk₂]⟩
      · refine .inr (.inr ?_)
        rw [huser, Function.update_self]
        exact hloose
      · cases huser
        exact absurd hold (h.not_severed hin hsevered)
    · by_cases huser : other = user
      · subst huser
        rw [Function.update_self]
        rcases hact.offer_before hoffer with hsame | ⟨hlinked, -⟩
        · exact .inr (.inl ⟨hout, hsame⟩)
        · exact .inl ⟨.inbox, hlinked, by simp [hout]⟩
      · rw [Function.update_of_ne huser]
        exact .inr (.inl ⟨hout, hoffer⟩)
    · by_cases huser : link.user = user
      · rw [huser] at hloose
        rcases hact.loose_before hplaced hloose with hsame | hnone | hno
        · refine .inr (.inr ?_)
          rw [huser, Function.update_self]
          exact hsame
        · exact absurd hnone (h.pointed other kind₀ id link hold)
        · refine absurd ?_ (hno kind)
          rw [← huser]
          exact hl
      · rw [Function.update_of_ne huser]
        exact .inr (.inr hloose)
  · rw [Function.update_self]
    exact .inr (.inl ⟨hk, hoffer⟩)
  · have hout := (h.offer user _ _ hoffer).1
    rcases hact.linked_before hplaced hout with ⟨kind', hlinked, hk'⟩ | ⟨-, hfree, -⟩ | ⟨-, hsevered⟩
    · refine .inl ⟨kind', ?_, by simp [hk, hk']⟩
      rw [huser]
      exact hlinked
    · exact nomatch hfree.offer.symm.trans hoffer
    · exact nomatch htied.symm.trans hsevered

theorem Joined.pointed_act {other : UserId} {kind : ListKind} {id : IssueId} {link : Link}
    (hl : view'.Linked other kind id link) : view'.record link.issue ≠ none := by
  have hlinked := hact.linked hl
  have hbefore : view.record link.issue ≠ none := by
    rcases hlinked with ⟨kind', hold, -⟩ | ⟨-, -, -, -, ⟨issue, hissue, hid⟩, -⟩ | ⟨-, -, hoffer, -⟩
    · exact h.pointed other kind' id link hold
    · rw [← hid]
      exact (hin.kept.keeps user).ready issue hissue
    · exact hin.kept.listed _ (h.offer user _ _ hoffer).1.listed
  rcases hact.record_before hbefore with hafter | horphan | ⟨htaken, htied⟩ | ⟨hready, hsame⟩
  · exact hafter
  · obtain ⟨⟨owner, hsettled⟩, hunlisted⟩ := (hin.kept.keeps user).orphan _ horphan
    rcases hlinked with ⟨kind', hold, -⟩ | ⟨-, -, -, -, hready, -⟩ | ⟨-, -, hoffer, -⟩
    · exact absurd rfl (h.orphan user _ horphan other kind' id link hold)
    · exact absurd hsettled (hin.not_ready hready)
    · exact absurd (h.offer user _ _ hoffer).1.listed hunlisted
  · obtain ⟨hsettled, hunlisted⟩ := (hin.ordered.releases user).taken _ htaken
    rcases hlinked with ⟨kind', hold, -⟩ | ⟨-, -, -, -, hready, -⟩ | ⟨-, -, hoffer, -⟩
    · have huser := hin.user_of_linked hold hsettled
      have hlinked : view.Linked other kind' id ⟨user, link.issue⟩ := by
        rw [← show link.user = user from huser]
        exact hold
      have hloose := h.taken user _ htaken other kind' id hlinked
      exact nomatch htied.symm.trans hloose
    · exact absurd hsettled (hin.not_ready hready)
    · exact absurd (h.offer user _ _ hoffer).1.listed hunlisted
  · rcases hlinked with ⟨kind', hold, -⟩ | ⟨-, -, hoffer, -, -, hfree⟩ | ⟨-, -, hoffer, -⟩
    · exact absurd hold (hin.not_linked_ready hready)
    · rw [hsame, hfree.offer] at hoffer
      exact nomatch hoffer
    · obtain ⟨owner, hsettled⟩ := hin.settled_of_listed (h.offer user _ _ hoffer).1.listed
      exact absurd hsettled (hin.not_ready hready)

omit hin in
theorem Joined.recorded_act {id : IssueId} (hid : view'.record id ≠ none) :
    view'.Listed id ∨ ∃ other, (Function.update tasks user task' other).Owes id := by
  have hself : task'.Owes id → ∃ other, (Function.update tasks user task' other).Owes id :=
    fun howes => ⟨user, by rw [Function.update_self]; exact howes⟩
  rcases hact.record hid with hbefore | howes
  · rcases h.recorded id hbefore with hlisted | ⟨other, howes⟩
    · rcases hact.listed_before hlisted with hlisted | htaken | horphan
      · exact .inl hlisted
      · exact .inr (hself (.inr (.inr (.inl htaken))))
      · exact .inr (hself (.inr (.inr (.inr horphan))))
    · by_cases huser : other = user
      · subst huser
        exact (hact.owes howes hid).imp_right hself
      · exact .inr ⟨other, by rw [Function.update_of_ne huser]; exact howes⟩
  · exact .inr (hself howes)

theorem Joined.offer_act {other : UserId} {own : IssueId} {link : Link}
    (hoffer : (Function.update tasks user task' other).offer = some (own, link)) :
    view'.Linked other .out own link ∧ link.user ≠ other := by
  have hstill : (tasks other).offer = some (own, link) →
      view'.Linked other .out own link ∧ link.user ≠ other := by
    intro hold
    obtain ⟨hout, hne⟩ := h.offer other own link hold
    rcases hact.linked_before hin.ordered.placed hout with
      ⟨kind, hlinked, hk⟩ | ⟨rfl, hfree, -⟩ | ⟨-, hsevered⟩
    · rw [hk.2 rfl] at hlinked
      exact ⟨hlinked, hne⟩
    · exact nomatch hfree.offer.symm.trans hold
    · exact absurd ((hin.ordered.releases user).loose _ _ hsevered).1 (hin.not_offered hold)
  by_cases huser : other = user
  · subst huser
    rw [Function.update_self] at hoffer
    exact (hact.offer hoffer).elim hstill fun hnew => hnew
  · rw [Function.update_of_ne huser] at hoffer
    exact hstill hoffer

theorem Joined.taken_act {owner other : UserId} {kind : ListKind} {id id' : IssueId}
    (htaken : (Function.update tasks user task' owner).taken = some id)
    (hl : view'.Linked other kind id' ⟨owner, id⟩) :
    (Function.update tasks user task' owner).loose = some (id, ⟨other, id'⟩) := by
  have hplaced := hin.ordered.placed
  by_cases huser : owner = user
  · subst huser
    rw [Function.update_self] at htaken ⊢
    rcases hact.linked hl with ⟨kind₀, hold, -⟩ | ⟨-, -, -, hne, -⟩ | ⟨-, -, hoffer, -⟩
    · rcases hact.taken hplaced htaken with hbefore | ⟨hfree, hlisted, hties⟩
      · have hloose := h.taken owner id hbefore other kind₀ id' hold
        rcases hact.loose_before hplaced hloose with hsame | hnone | hno
        · exact hsame
        · exact absurd hnone (h.pointed other kind₀ id' _ hold)
        · exact absurd hl (hno kind)
      · obtain ⟨kind', hback⟩ := h.source hin hfree hlisted hold
        exact hties kind' _ hback
    · exact absurd rfl hne
    · rcases hact.taken hplaced htaken with hbefore | ⟨hfree, -⟩
      · exact absurd (h.offer owner _ _ hoffer).1.listed ((hin.ordered.releases owner).taken id hbefore).2
      · exact nomatch hfree.offer.symm.trans hoffer
  · rw [Function.update_of_ne huser] at htaken ⊢
    rcases hact.linked hl with ⟨kind₀, hold, -⟩ | ⟨-, -, -, -, hready, -⟩ | ⟨he, -⟩
    · exact h.taken owner id htaken other kind₀ id' hold
    · exact absurd ((hin.ordered.releases owner).taken id htaken).1 (hin.not_ready hready)
    · exact absurd he huser

theorem Joined.orphan_act {owner other : UserId} {kind : ListKind} {id id' : IssueId} {link : Link}
    (horphan : (Function.update tasks user task' owner).orphan = some id)
    (hl : view'.Linked other kind id' link) : link.issue ≠ id := by
  have hstill : (tasks owner).orphan = some id → link.issue ≠ id := by
    intro horphan
    obtain ⟨⟨owner', hsettled⟩, hunlisted⟩ := (hin.kept.keeps owner).orphan id horphan
    rcases hact.linked hl with ⟨kind₀, hold, -⟩ | ⟨-, -, -, -, hready, -⟩ | ⟨-, -, hoffer, -⟩
    · exact h.orphan owner id horphan other kind₀ id' link hold
    · exact fun he => hin.not_ready hready (he ▸ hsettled)
    · exact fun he => hunlisted (he ▸ (h.offer user _ _ hoffer).1.listed)
  by_cases huser : owner = user
  · subst huser
    rw [Function.update_self] at horphan
    rcases hact.orphan hin.ordered.placed horphan with horphan | ⟨own, link', tied, rfl, hback⟩
    · exact hstill horphan
    · rcases hact.linked hl with ⟨kind₀, hold, -⟩ | ⟨-, -, -, -, -, hfree⟩ | ⟨-, -, -, hnone⟩
      · exact h.not_linked hin tied hback hold
      · exact nomatch hfree.loose.symm.trans tied
      · exact nomatch hnone.symm.trans tied
  · rw [Function.update_of_ne huser] at horphan
    exact hstill horphan

/-- What a client is bound to dissolve, after an act of any client. -/
theorem Joined.dissolves_act {owner : UserId} {own : IssueId} {link : Link}
    (hloose : (tasks owner).loose = some (own, link)) :
    Dissolves view' (Function.update tasks user task') owner own link := by
  have hd := h.loose owner own link hloose
  have hsettled := (hin.kept.keeps owner).loose own link hloose
  have hown := ((hin.ordered.releases owner).loose own link hloose).1
  have hspent : ∀ other, (tasks other).spent = true →
      (Function.update tasks user task' other).spent = true := by
    intro other hs
    by_cases huser : other = user
    · subst huser
      rw [Function.update_self]
      exact hact.spent hs
    · rw [Function.update_of_ne huser]
      exact hs
  refine ⟨hd.other, ?_, ?_, ?_, ?_, ?_⟩
  · intro other kind id hl
    rcases hact.linked hl with ⟨kind₀, hold, -⟩ | ⟨-, -, -, -, hready, -⟩ | ⟨huser, -, -, hnone⟩
    · exact hd.source other kind₀ id hold
    · exact absurd hown (hin.not_ready hready)
    · cases huser
      exact nomatch hnone.symm.trans hloose
  · intro kind entry he hid
    rcases hact.holds he with ⟨kind₀, he⟩ | hready | ⟨own', hoffer⟩ | ⟨huser, hs⟩
    · exact (hd.back kind₀ entry he hid).imp_right (hspent link.user)
    · exact absurd (hid ▸ hsettled) (hin.not_ready hready)
    · exact absurd (hid ▸ hsettled) (hin.not_offered hoffer)
    · refine .inr ?_
      rw [huser, Function.update_self]
      exact hs
  · intro link' hf
    by_cases huser : link.user = user
    · rw [huser, Function.update_self] at hf
      rcases hact.loose hin.ordered.placed hf with hold | ⟨hfree, ⟨kind, e, he, hid, hlink⟩, -⟩
      · exact hd.facing link' (by rw [huser]; exact hold)
      · rcases hd.back kind e (by rw [huser]; exact he) hid with hback | hs
        · exact Option.some.inj (hlink.symm.trans hback)
        · rw [huser, hfree.unspent] at hs
          exact nomatch hs
    · rw [Function.update_of_ne huser] at hf
      exact hd.facing link' hf
  · exact fun hlisted => hspent owner (hd.spent (hin.ordered.listed_of_act hact hown hlisted))
  · intro kind link' hl
    rcases hact.linked hl with ⟨kind₀, hold, -⟩ | ⟨rfl, -, hoffer, -⟩ | ⟨-, -, hoffer, -⟩
    · have hoffer := hd.anew kind₀ link' hold
      by_cases huser : owner = user
      · subst huser
        rw [Function.update_self]
        rcases hact.offer_before hoffer with hsame | ⟨-, hnone⟩
        · exact hsame
        · exact nomatch hnone.symm.trans hloose
      · rw [Function.update_of_ne huser]
        exact hoffer
    · rw [Function.update_self]
      exact hoffer
    · exact absurd hown (hin.not_offered hoffer)

theorem Joined.loose_act {owner : UserId} {own : IssueId} {link : Link}
    (hloose : (Function.update tasks user task' owner).loose = some (own, link)) :
    Dissolves view' (Function.update tasks user task') owner own link := by
  by_cases huser : owner = user
  · subst huser
    rw [Function.update_self] at hloose
    rcases hact.loose hin.ordered.placed hloose with hold | ⟨hfree, ⟨kind, hlinked⟩, hspent, hanew⟩
    · exact h.dissolves_act hin hact hold
    -- the client has just given up an entry
    have hne := h.other owner kind own link hlinked
    refine ⟨hne, ?_, ?_, ?_, ?_, ?_⟩
    · intro other kind' id hl
      rcases hact.linked hl with ⟨kind₀, hold, -⟩ | ⟨-, -, -, hself, -⟩ | ⟨-, -, hoffer, -⟩
      · obtain ⟨kind₁, hback⟩ := h.source hin hfree hlinked.listed hold
        exact (hin.linked_unique hlinked hback).2
      · exact absurd rfl hself
      · exact nomatch hfree.offer.symm.trans hoffer
    · intro kind' entry he hid
      rw [Function.update_of_ne hne]
      rcases hact.holds he with ⟨kind₀, he⟩ | hready | ⟨own', hoffer⟩ | ⟨huser, -⟩
      · exact h.back hin hfree hlinked he hid
      · obtain ⟨e, hheld, -, hlink⟩ := hlinked
        have hsettled := h.ties hin hfree kind e link hheld hlink
        exact absurd (hid ▸ hsettled) (hin.not_ready hready)
      · exact nomatch hfree.offer.symm.trans hoffer
      · exact absurd huser hne
    · intro link' hf
      rw [Function.update_of_ne hne] at hf
      exact (h.loose link.user link.issue link' hf).source owner kind own hlinked
    · rw [Function.update_self]
      exact hspent
    · rw [Function.update_self]
      exact hanew
  · rw [Function.update_of_ne huser] at hloose
    exact h.dissolves_act hin hact hloose

/-- An act of any client preserves that links are joined. -/
theorem Joined.act : Joined view' (Function.update tasks user task') where
  other _ _ _ _ := h.other_act hact
  unlinked other kind entry he hlink :=
    (hact.unlinked he hlink).elim (fun he => h.unlinked other kind entry he hlink) fun hmy => hmy
  paired _ _ _ _ := h.paired_act hin hact
  pointed _ _ _ _ := h.pointed_act hin hact
  recorded _ := h.recorded_act hact
  offer _ _ _ := h.offer_act hin hact
  taken _ _ htaken _ _ _ := h.taken_act hin hact htaken
  loose _ _ _ := h.loose_act hin hact
  orphan _ _ horphan _ _ _ _ := h.orphan_act hin hact horphan

end

end SharedTodo.Exchange
