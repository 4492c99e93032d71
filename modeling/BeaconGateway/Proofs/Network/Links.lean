import BeaconGateway.Proofs.Lists
import BeaconGateway.Proofs.Network.Status
import Mathlib.Data.Bool.Basic
import Mathlib.Data.List.Basic
import Mathlib.Data.List.Induction

/-!
# Links, news and losses

Links go up and down in any order, and an event may say of a link what is so already. For each event
the network is looked at before and after the bit of the link is moved. Meanwhile others move bits
of their own: the broker connection comes and goes, and relaying is suspended and resumed. None of
this is seen by a look at the links (`NetworkStatus.onLinkAmid_eq`).

So each link is as its latest event says, and the supervisor is told exactly when the first link
comes up and the last one goes down. It hears of both in turn. A loss is counted where the bit is
lowered, by another test than the looks make, and still the count is that of the losses told.

## Main definitions

* `NetworkStatus.Turn` — what may happen to the status, with `NetworkStatus.follow` and
  `NetworkStatus.posts` for any number of turns;
* `NetworkStatus.lastEvent` — the latest event of a link.

## Main results

* `NetworkStatus.isSet_turn`, `NetworkStatus.posts_turn`, `NetworkStatus.lost_turn` — one turn;
* `NetworkStatus.posts_edges` — any number of turns.
-/

namespace BeaconGateway

/-! ### Events -/

namespace LinkEvent

/-- The link of an event. -/
def link : LinkEvent → Link
  | up link | down link => link

/-- Whether the link has come up. -/
def isUp : LinkEvent → Bool
  | up _ => true
  | down _ => false

/-- The news that the network has come up or gone down. -/
def news (connected : Bool) : SupervisorSignal :=
  if connected then .networkConnected else .networkDisconnected

theorem edge_eq (before after : Bool) :
    edge before after = if before = after then [] else [news after] := by
  cases before <;> cases after <;> rfl

end LinkEvent

namespace NetworkStatus

/-! ### Bits that are no links -/

/-- A bit that is no link moves. -/
inductive Aside where
  /-- The broker connection comes up or goes down. -/
  | broker (connected : Bool)
  /-- Relaying is suspended or resumed. -/
  | suspension (on : Bool)

/-- Move a bit that is no link. -/
def aside (s : NetworkStatus) : Aside → NetworkStatus
  | .broker connected => s.onBroker connected
  | .suspension true => s.set suspended
  | .suspension false => s.clear suspended

/-- The links of two statuses are the same, and so is the count of losses. -/
structure SameLinks (s s' : NetworkStatus) : Prop where
  /-- Each link is as it was. -/
  link : ∀ link : Link, s'.isSet link.mask = s.isSet link.mask
  /-- No loss was counted. -/
  lost : s'.lost = s.lost

namespace SameLinks

variable {s s' s'' : NetworkStatus}

theorem refl (s : NetworkStatus) : SameLinks s s :=
  ⟨fun _ ↦ rfl, rfl⟩

theorem trans (hfirst : SameLinks s s') (hsecond : SameLinks s' s'') : SameLinks s s'' :=
  ⟨fun link ↦ (hsecond.link link).trans (hfirst.link link), hsecond.lost.trans hfirst.lost⟩

theorem isConnected (hsame : SameLinks s s') : s'.isConnected = s.isConnected := by
  rw [isConnected_eq, isConnected_eq]
  exact congrArg₂ or (hsame.link .wifi) (hsame.link .ethernet)

/-- Bits outside of both links are raised. -/
theorem set {mask : UInt32} (hapart : ∀ link : Link, mask &&& link.mask = 0) (s : NetworkStatus) :
    SameLinks s (s.set mask) :=
  ⟨fun link ↦ isSet_set (hapart link) s, rfl⟩

/-- Bits outside of both links are lowered. -/
theorem clear {mask : UInt32} (hapart : ∀ link : Link, ~~~mask &&& link.mask = link.mask)
    (hnone : mask &&& links = 0) (s : NetworkStatus) : SameLinks s (s.clear mask) :=
  ⟨fun link ↦ isSet_clear (hapart link) s, if_neg fun hloses ↦ hloses.1 hnone⟩

theorem aside (s : NetworkStatus) (a : Aside) : SameLinks s (s.aside a) := by
  cases a with
  | broker connected =>
    cases connected with
    | true => exact set (fun link ↦ by cases link <;> decide) s
    | false => exact clear (fun link ↦ by cases link <;> decide) (by decide) s
  | suspension on =>
    cases on with
    | true => exact set (fun link ↦ by cases link <;> decide) s
    | false => exact clear (fun link ↦ by cases link <;> decide) (by decide) s

theorem asides (s : NetworkStatus) (moves : List Aside) :
    SameLinks s (moves.foldl NetworkStatus.aside s) := by
  induction moves generalizing s with
  | nil => exact refl s
  | cons a rest ih => exact (aside s a).trans (ih (s.aside a))

end SameLinks

/-! ### Turns -/

/-- A link goes up or down while other bits move: `early` before the bit of the link is moved, and
`late` before the second look. -/
def onLinkAmid (s : NetworkStatus) (e : LinkEvent) (early late : List Aside) :
    NetworkStatus × List SupervisorSignal :=
  let s' := late.foldl aside (e.apply (early.foldl aside s))
  (s', LinkEvent.edge s.isConnected s'.isConnected ++ e.reconnect)

/-- **Other bits that move meanwhile** are not seen by the looks at the network. -/
theorem onLinkAmid_eq (s : NetworkStatus) (e : LinkEvent) (early late : List Aside) :
    s.onLinkAmid e early late =
      let told := (early.foldl aside s).onLink e
      (late.foldl aside told.1, told.2) := by
  rw [onLinkAmid, onLink, (SameLinks.asides s early).isConnected,
    (SameLinks.asides (e.apply (early.foldl aside s)) late).isConnected]

/-- What may happen to the status. -/
inductive Turn where
  /-- A link goes up or down, while other bits move. -/
  | link (event : LinkEvent) (early late : List Aside)
  /-- A bit that is no link moves. -/
  | aside (a : Aside)

/-- The event of a turn. -/
def Turn.event? : Turn → Option LinkEvent
  | link event _ _ => some event
  | aside _ => none

/-- One turn: the new status, and the signals to the supervisor. -/
def turn (s : NetworkStatus) : Turn → NetworkStatus × List SupervisorSignal
  | .link event early late => s.onLinkAmid event early late
  | .aside a => (s.aside a, [])

/-- The status after some turns. -/
def follow (s : NetworkStatus) (turns : List Turn) : NetworkStatus :=
  turns.foldl (fun s t ↦ (s.turn t).1) s

/-- The signals to the supervisor in some turns, in order. -/
def posts : NetworkStatus → List Turn → List SupervisorSignal
  | _, [] => []
  | s, t :: rest => (s.turn t).2 ++ (s.turn t).1.posts rest

theorem follow_concat (s : NetworkStatus) (turns : List Turn) (t : Turn) :
    s.follow (turns ++ [t]) = ((s.follow turns).turn t).1 :=
  List.foldl_concat _ _ _ _

theorem posts_concat (s : NetworkStatus) (turns : List Turn) (t : Turn) :
    s.posts (turns ++ [t]) = s.posts turns ++ ((s.follow turns).turn t).2 := by
  induction turns generalizing s with
  | nil => simp [posts, follow]
  | cons first rest ih => simp only [List.cons_append, posts, ih, List.append_assoc]; rfl

/-! ### One turn -/

theorem isConnected_of_isSet {s : NetworkStatus} {link : Link} (hup : s.isSet link.mask = true) :
    s.isConnected = true := by
  rw [isConnected_eq, Bool.or_eq_true]
  cases link with
  | wifi => exact .inl hup
  | ethernet => exact .inr hup

/-- A link that goes up or down is up or down, and the other link is as it was. -/
theorem isSet_apply (e : LinkEvent) (s : NetworkStatus) (link : Link) :
    (e.apply s).isSet link.mask = if e.link = link then e.isUp else s.isSet link.mask := by
  have hnonzero : link.mask ≠ 0 := by cases link <;> decide
  have hapart {moved : Link} (hother : moved ≠ link) :
      moved.mask &&& link.mask = 0 ∧ ~~~moved.mask &&& link.mask = link.mask := by
    revert hother
    cases moved <;> cases link <;> decide
  cases e with
  | up moved =>
    by_cases hsame : moved = link
    · subst hsame
      exact (isSet_set_self hnonzero s).trans (if_pos rfl).symm
    · exact (isSet_set (hapart hsame).1 s).trans (if_neg hsame).symm
  | down moved =>
    by_cases hsame : moved = link
    · subst hsame
      exact (isSet_clear_self moved.mask s).trans (if_pos rfl).symm
    · exact (isSet_clear (hapart hsame).2 s).trans (if_neg hsame).symm

/-- A loss is counted where the last link goes down. -/
theorem lost_apply (e : LinkEvent) (s : NetworkStatus) :
    (e.apply s).lost =
      if s.isConnected = true ∧ (e.apply s).isConnected = false then s.lost + 1 else s.lost := by
  cases e with
  | up link =>
    have hup : (LinkEvent.apply (.up link) s).isConnected = true :=
      isConnected_of_isSet ((isSet_apply (.up link) s link).trans (if_pos rfl))
    exact (if_neg fun hdown ↦ absurd (hup.symm.trans hdown.2) (by decide)).symm
  | down link =>
    have hlink : link.mask &&& links ≠ 0 := by cases link <;> decide
    rw [LinkEvent.apply, clear]
    simp only [isConnected, isSet, bne_iff_ne, bne_eq_false_iff_eq, and_iff_right hlink]

/-- **The links after a turn**: a link is as the event says that is about it. -/
theorem isSet_turn (s : NetworkStatus) (t : Turn) (link : Link) :
    (s.turn t).1.isSet link.mask =
      ((t.event?.filter fun e ↦ e.link = link).map LinkEvent.isUp).getD (s.isSet link.mask) := by
  cases t with
  | aside a => exact (SameLinks.aside s a).link link
  | link e early late =>
    rw [turn, onLinkAmid_eq, (SameLinks.asides _ late).link, onLink, isSet_apply,
      (SameLinks.asides s early).link, Turn.event?, Option.filter_some]
    by_cases habout : e.link = link <;> simp [habout]

/-- **What the supervisor is told in a turn**: that the network came up or went down, if it did, and
the wish to connect again, if the Wi-Fi link went down. -/
theorem posts_turn (s : NetworkStatus) (t : Turn) :
    (s.turn t).2 =
      (if s.isConnected = (s.turn t).1.isConnected then []
        else [LinkEvent.news (s.turn t).1.isConnected]) ++
      (if t.event? = some (.down .wifi) then [.reconnectNetwork] else []) := by
  cases t with
  | aside a =>
    rw [turn, (SameLinks.aside s a).isConnected, if_pos rfl]
    rfl
  | link e early late =>
    rw [turn, onLinkAmid, LinkEvent.edge_eq, LinkEvent.reconnect, Turn.event?]
    simp only [Option.some.injEq]

/-- **The count of losses after a turn.** -/
theorem lost_turn (s : NetworkStatus) (t : Turn) :
    (s.turn t).1.lost =
      if s.isConnected = true ∧ (s.turn t).1.isConnected = false then s.lost + 1 else s.lost := by
  cases t with
  | aside a =>
    have hsame := SameLinks.aside s a
    rw [turn, hsame.isConnected, hsame.lost, if_neg]
    rintro ⟨hup, hdown⟩
    exact absurd (hup.symm.trans hdown) (by decide)
  | link e early late =>
    have hbefore := SameLinks.asides s early
    have hafter := SameLinks.asides (e.apply (early.foldl aside s)) late
    rw [turn, onLinkAmid_eq, onLink, hafter.isConnected, hafter.lost, lost_apply,
      hbefore.isConnected, hbefore.lost]

/-! ### Any number of turns -/

/-- The latest event of a link. -/
def lastEvent (link : Link) (turns : List Turn) : Option LinkEvent :=
  ((turns.filterMap Turn.event?).filter fun e ↦ e.link = link).getLast?

theorem lastEvent_concat (link : Link) (turns : List Turn) (t : Turn) :
    lastEvent link (turns ++ [t]) =
      (t.event?.filter fun e ↦ e.link = link).or (lastEvent link turns) := by
  rw [lastEvent, List.filterMap_append, List.filter_append, List.getLast?_append]
  cases hevent : t.event? with
  | none => simp [hevent, lastEvent]
  | some e =>
    rw [Option.filter_some]
    by_cases habout : e.link = link <;> simp [hevent, habout, lastEvent]

/-- **Each link** is as its latest event says, or as at the start before any. -/
theorem isSet_follow (s : NetworkStatus) (turns : List Turn) (link : Link) :
    (s.follow turns).isSet link.mask =
      ((lastEvent link turns).map LinkEvent.isUp).getD (s.isSet link.mask) := by
  induction turns using List.reverseRecOn with
  | nil => rfl
  | append_singleton turns t ih =>
    rw [follow_concat, isSet_turn, ih, lastEvent_concat]
    cases t.event?.filter fun e ↦ e.link = link <;> rfl

/-- **The news come in turn**, beginning with the one that the start was not like. -/
theorem exists_news_eq_alternating (s : NetworkStatus) (turns : List Turn) :
    ∃ n, (s.posts turns).filter (· ≠ .reconnectNetwork) =
      alternating (LinkEvent.news !s.isConnected) (LinkEvent.news s.isConnected) n := by
  induction turns generalizing s with
  | nil => exact ⟨0, rfl⟩
  | cons t rest ih =>
    obtain ⟨n, hnews⟩ := ih (s.turn t).1
    have hwish : (if t.event? = some (.down .wifi) then [SupervisorSignal.reconnectNetwork]
        else []).filter (· ≠ .reconnectNetwork) = [] := by
      split_ifs <;> rfl
    rw [posts, List.filter_append, posts_turn, List.filter_append, hwish, hnews, List.append_nil]
    by_cases hsame : s.isConnected = (s.turn t).1.isConnected
    · rw [if_pos hsame, ← hsame]
      exact ⟨n, rfl⟩
    · have hother : (s.turn t).1.isConnected = !s.isConnected := Bool.eq_not_iff.2 (Ne.symm hsame)
      rw [if_neg hsame, hother, Bool.not_not]
      refine ⟨n + 1, ?_⟩
      cases s.isConnected <;> rfl

/-- A turn tells of a loss if it takes the last link down. -/
theorem count_disconnected_turn (s : NetworkStatus) (t : Turn) :
    (s.turn t).2.count .networkDisconnected =
      if s.isConnected = true ∧ (s.turn t).1.isConnected = false then 1 else 0 := by
  rw [posts_turn, List.count_append]
  have hwish : (if t.event? = some (.down .wifi) then [SupervisorSignal.reconnectNetwork]
      else []).count .networkDisconnected = 0 := by
    split_ifs <;> rfl
  rw [hwish]
  cases s.isConnected <;> cases (s.turn t).1.isConnected <;> rfl

/-- **The losses counted are the losses told**, up to the width of the count. -/
theorem toNat_lost_follow (s : NetworkStatus) (turns : List Turn) :
    (s.follow turns).lost.toNat =
      (s.lost.toNat + (s.posts turns).count .networkDisconnected) % 4294967296 := by
  induction turns using List.reverseRecOn with
  | nil => exact (Nat.mod_eq_of_lt s.lost.toNat_lt).symm
  | append_singleton turns t ih =>
    rw [follow_concat, posts_concat, List.count_append, count_disconnected_turn, lost_turn]
    split_ifs with hloses
    · rw [UInt32.toNat_add, ih]
      exact Nat.mod_add_mod _ _ _
    · exact ih

/-- **Links, news and losses.** From a status without a link, whatever links go up and down and
whatever other bits move, also while an event is handled:

* each link is as its latest event says, and down before any;
* of the news that the network came up or went down the supervisor hears in turn, first that it came
  up;
* it hears of them exactly in the turns in which the network came up or went down, and in exactly
  those in which the Wi-Fi link goes down it is asked to connect again;
* the count of losses has grown by the number of losses that it heard of, modulo `2 ^ 32`. -/
theorem posts_edges {s : NetworkStatus} (hnoLink : s.isConnected = false) (turns : List Turn) :
    (∀ link : Link, (s.follow turns).isSet link.mask =
      ((lastEvent link turns).map LinkEvent.isUp).getD false) ∧
    (∃ n, (s.posts turns).filter (· ≠ .reconnectNetwork) =
      alternating .networkConnected .networkDisconnected n) ∧
    (∀ t : Turn,
      let up := (s.follow turns).isConnected
      let up' := (s.follow (turns ++ [t])).isConnected
      s.posts (turns ++ [t]) = s.posts turns ++
        ((if up = up' then [] else [if up' then .networkConnected else .networkDisconnected]) ++
        (if t.event? = some (.down .wifi) then [.reconnectNetwork] else []))) ∧
    (s.follow turns).lost.toNat =
      (s.lost.toNat + (s.posts turns).count .networkDisconnected) % 4294967296 := by
  refine ⟨fun link ↦ ?_, ?_, fun t ↦ ?_, toNat_lost_follow s turns⟩
  · have hdown : s.isSet link.mask = false := by
      rw [← Bool.not_eq_true]
      intro hup
      exact absurd (hnoLink.symm.trans (isConnected_of_isSet hup)) (by decide)
    rw [isSet_follow, hdown]
  · have hnews := exists_news_eq_alternating s turns
    rwa [hnoLink] at hnews
  · intro up up'
    rw [posts_concat, posts_turn, ← follow_concat]
    rfl

/-- The network goes down once, with the second of two links, and comes up again. The Wi-Fi link
goes down before, and is said to be down once more. -/
theorem posts_edges_of_return :
    let turns : List Turn := [
      .link (.up .wifi) [.broker true] [.suspension true], .link (.up .ethernet) [] [],
      .aside (.broker false), .link (.down .wifi) [] [.broker true], .link (.down .wifi) [] [],
      .link (.down .ethernet) [.suspension false] [], .link (.up .ethernet) [] []]
    down.isConnected = false ∧
      (down.follow turns).isSet wifi = false ∧ (down.follow turns).isSet ethernet = true ∧
      (∃ n, (down.posts turns).filter (· ≠ .reconnectNetwork) =
        alternating .networkConnected .networkDisconnected n) ∧
      (down.follow turns).lost.toNat = 1 := by
  intro turns
  have hnoLink : down.isConnected = false := by decide
  obtain ⟨hlinks, hnews, -, hlost⟩ := posts_edges hnoLink turns
  exact ⟨hnoLink, hlinks .wifi, hlinks .ethernet, hnews, hlost⟩

end NetworkStatus

end BeaconGateway
