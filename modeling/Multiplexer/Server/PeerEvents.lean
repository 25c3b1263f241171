import Multiplexer.Server.RunSteps
import Mathlib.Data.List.Chain

/-! What a recording tells of a peer: CONNECTED when its welcome is accepted, DISCONNECTED once its
connection has closed, in turn as long as no connection comes, and no recording begins, while one
that has left routing is still read to its end. -/

set_option autoImplicit false

namespace Multiplexer.Server

open List Option Function Std

def events (id : UInt64) (records : List Record) : List PeerEventKind :=
  records.filterMap (Record.event? id)

def Alternates (told : List PeerEventKind) : Prop :=
  told.head? ≠ some .disconnected ∧ told.IsChain (· ≠ ·)

theorem Alternates.of_prefix {part told : List PeerEventKind} (alternates : Alternates told)
    (isPart : part <+: told) : Alternates part := by
  obtain ⟨_, rfl⟩ := isPart
  obtain ⟨first, chain⟩ := alternates
  refine ⟨?_, (isChain_append.mp chain).1⟩
  cases part with
  | nil => exact nofun
  | cons => exact first

structure Tells (present : Prop) (told : List PeerEventKind) : Prop where
  alternates : Alternates told
  last : told.getLast? = some .connected ↔ present

namespace Tells

variable {told : List PeerEventKind} {present : Prop}

theorem absent (no : ¬present) : Tells present [] :=
  ⟨⟨nofun, .nil⟩, nofun, fun yes => absurd yes no⟩

theorem connected {was : Prop} (tells : Tells was told) (no : ¬was) (yes : present) :
    Tells present (told ++ [.connected]) := by
  obtain ⟨⟨first, chain⟩, last⟩ := tells
  refine ⟨⟨?_, isChain_append.mpr ⟨chain, .singleton _, ?_⟩⟩, ?_⟩
  · cases told with
    | nil => exact nofun
    | cons => exact first
  · intro _ isLast _ isNext
    cases isNext
    rintro rfl
    exact no (last.mp isLast)
  · simp [yes]

theorem disconnected {was : Prop} (tells : Tells was told) (yes : was) (no : ¬present) :
    Tells present (told ++ [.disconnected]) := by
  obtain ⟨⟨first, chain⟩, last⟩ := tells
  have isLast := last.mpr yes
  refine ⟨⟨?_, isChain_append.mpr ⟨chain, .singleton _, ?_⟩⟩, ?_⟩
  · cases told with
    | nil => cases isLast
    | cons => exact first
  · intro _ isEvent _ isNext
    cases isNext
    cases isLast.symm.trans isEvent
    exact nofun
  · simp [no]

end Tells

variable {Regex : Type} {server before middle after : Server Regex}
  {env : Surroundings Regex} {conn : Pointer} {peer now : Connection}

/-- A connection a recording owes a DISCONNECTED: registered, in the index or departed and not closed
yet, and not replaced. -/
def Unclosed (id : UInt64) (conn : Pointer) (server : Server Regex) : Prop :=
  ∃ peer, server.connections conn = some peer ∧ peer.registered = true ∧
    peer.peerId = id ∧ conn ∉ server.replaced

/-- A registered connection that left routing is among the departed, unless it was
replaced. -/
def Noted (server : Server Regex) : Prop :=
  ∀ conn peer, server.connections conn = some peer →
    peer.registered = true → peer.toldGone = true → conn ∉ server.replaced →
    conn ∈ server.departed

structure Chronicle (server : Server Regex) : Prop where
  noted : server.Noted
  single : ∀ id first second, server.Unclosed id first → server.Unclosed id second → first = second
  session : ∀ recorder, server.recorder = some recorder → ∀ id,
    Tells (∃ conn, server.Unclosed id conn) (events id recorder.records)
  closed : ∀ records ∈ server.recordings, ∀ id, Alternates (events id records)

/-! ## Who is present -/

theorem Alike.present (alike : Alike before after) (id : UInt64) (conn : Pointer) :
    after.Unclosed id conn ↔ before.Unclosed id conn := by
  constructor
  · rintro ⟨now, found, registered, sameId, present⟩
    obtain ⟨earlier, found, similar⟩ := alike.back conn now found
    rw [similar.registered] at registered
    obtain ⟨-, stays, -⟩ := similar.member registered
    exact ⟨earlier, found, registered, stays ▸ sameId, alike.replaced ▸ present⟩
  · rintro ⟨earlier, found, registered, sameId, present⟩
    obtain ⟨now, found, similar⟩ := alike.forth conn earlier found
    obtain ⟨-, stays, -⟩ := similar.member registered
    refine ⟨now, found, similar.registered.trans registered, stays.trans sameId, ?_⟩
    rw [alike.replaced]
    exact present

theorem Alike.noted (alike : Alike before after) (noted : before.Noted) : after.Noted := by
  intro conn now found registered told present
  obtain ⟨earlier, found, similar⟩ := alike.back conn now found
  rw [similar.registered] at registered
  obtain ⟨stays, -, -⟩ := similar.member registered
  rw [alike.departed]
  exact noted conn earlier found registered (stays ▸ told) (alike.replaced ▸ present)

theorem present_put (connections : after.connections = (server.put conn now).connections)
    (replaced : after.replaced = server.replaced)
    (found : server.connections conn = some peer)
    (registered : now.registered = peer.registered)
    (sameId : now.peerId = peer.peerId) (id : UInt64) (each : Pointer) :
    after.Unclosed id each ↔ server.Unclosed id each := by
  constructor
  · rintro ⟨other, found', isRegistered, isId, present⟩
    rw [replaced] at present
    obtain ⟨rfl, rfl⟩ | ⟨-, found'⟩ := (found_put connections).mp found'
    · exact ⟨peer, found, registered ▸ isRegistered, sameId ▸ isId, present⟩
    · exact ⟨other, found', isRegistered, isId, present⟩
  · rintro ⟨other, found', isRegistered, isId, present⟩
    rw [← replaced] at present
    by_cases same : each = conn
    · subst same
      cases found.symm.trans found'
      exact ⟨now, (found_put connections).mpr (.inl ⟨rfl, rfl⟩), registered.trans isRegistered,
        sameId.trans isId, present⟩
    · exact ⟨other, (found_put connections).mpr (.inr ⟨same, found'⟩), isRegistered, isId, present⟩

theorem present_gone (connections : after.connections = (server.put conn now).connections)
    (out : now.registered = false ∨ conn ∈ after.replaced)
    (replaced : ∀ each, each ≠ conn → (each ∈ after.replaced ↔ each ∈ server.replaced))
    (id : UInt64) (each : Pointer) :
    after.Unclosed id each ↔ each ≠ conn ∧ server.Unclosed id each := by
  constructor
  · rintro ⟨other, found, registered, sameId, present⟩
    obtain ⟨rfl, rfl⟩ | ⟨differ, found⟩ := (found_put connections).mp found
    · obtain out | out := out
      · cases registered.symm.trans out
      · exact absurd out present
    · rw [replaced each differ] at present
      exact ⟨differ, other, found, registered, sameId, present⟩
  · rintro ⟨differ, other, found, registered, sameId, present⟩
    rw [← replaced each differ] at present
    exact ⟨other, (found_put connections).mpr (.inr ⟨differ, found⟩), registered, sameId, present⟩

theorem close_present (id : UInt64) (each : Pointer) :
    (server.close conn peer).Unclosed id each ↔ each ≠ conn ∧ server.Unclosed id each := by
  have changed : (server.close conn peer).connections = (server.put conn
      { peer with
        registered := false, outgoingMax := 0, outgoing := [], ended := true }).connections := rfl
  refine present_gone changed (.inl rfl) (fun each differ => ?_) id each
  exact ⟨Finset.mem_of_mem_erase, fun member => Finset.mem_erase.mpr ⟨differ, member⟩⟩

theorem close_noted (noted : server.Noted) : (server.close conn peer).Noted := by
  intro each other found registered told present
  obtain ⟨rfl, rfl⟩ | ⟨differ, found⟩ := (found_put rfl).mp found
  · cases registered
  · refine Finset.mem_erase.mpr ⟨differ, noted each other found registered told fun member => ?_⟩
    exact present (Finset.mem_erase.mpr ⟨differ, member⟩)

theorem displace_present (id : UInt64) (each : Pointer) :
    (server.displace conn peer).Unclosed id each ↔ each ≠ conn ∧ server.Unclosed id each := by
  have changed : (server.displace conn peer).connections =
      (server.put conn { peer with inTypeList := false }).connections := rfl
  refine present_gone changed (.inr (Finset.mem_insert_self _ _)) (fun each differ => ?_) id each
  exact ⟨fun member => Finset.mem_of_mem_insert_of_ne member differ, Finset.mem_insert_of_mem⟩

theorem displace_noted (noted : server.Noted) : (server.displace conn peer).Noted := by
  intro each other found registered told present
  obtain ⟨rfl, rfl⟩ | ⟨_, found⟩ := (found_put rfl).mp found
  · exact absurd (Finset.mem_insert_self _ _) present
  · refine noted each other found registered told fun member => ?_
    exact present (Finset.mem_insert_of_mem member)

theorem join_present {filters : List FilterMessage} {owner : Owner}
    (found : server.connections conn = some peer) (young : peer.Young)
    (notReplaced : conn ∉ server.replaced) (id : UInt64) (each : Pointer) :
    (server.join conn peer filters owner).Unclosed id each ↔
      server.Unclosed id each ∨ each = conn ∧ peer.peerId = id := by
  constructor
  · rintro ⟨other, found', registered, sameId, present⟩
    obtain ⟨rfl, rfl⟩ | ⟨-, found'⟩ := (found_put rfl).mp found'
    · exact .inr ⟨rfl, sameId⟩
    · exact .inl ⟨other, found', registered, sameId, present⟩
  · rintro (⟨other, found', registered, sameId, present⟩ | ⟨rfl, sameId⟩)
    · refine ⟨other, (found_put rfl).mpr (.inr ⟨?_, found'⟩), registered, sameId, present⟩
      rintro rfl
      cases found.symm.trans found'
      exact not_young registered young
    · exact ⟨_, update_self _ _ _, rfl, sameId, notReplaced⟩

theorem join_noted {filters : List FilterMessage} {owner : Owner} (noted : server.Noted)
    (notTold : peer.toldGone = false) :
    (server.join conn peer filters owner).Noted := by
  intro each other found registered told present
  obtain ⟨rfl, rfl⟩ | ⟨-, found⟩ := (found_put rfl).mp found
  · have isTold : peer.toldGone = true := told
    cases notTold.symm.trans isTold
  · exact noted each other found registered told present

/-! ## What a step tells -/

theorem events_append (id : UInt64) (first second : List Record) :
    events id (first ++ second) = events id first ++ events id second :=
  filterMap_append

namespace Chronicle

section

variable (chronicle : Chronicle before)

include chronicle

theorem written {records : List Record} (wrote : Wrote records before after) (noted : after.Noted)
    (single : ∀ id first second, after.Unclosed id first → after.Unclosed id second →
      first = second) (tells : ∀ id told, Tells (∃ conn, before.Unclosed id conn) told →
      Tells (∃ conn, after.Unclosed id conn) (told ++ events id records)) : Chronicle after := by
  refine ⟨noted, single, ?_, ?_⟩
  · intro recorder isOpen id
    obtain ⟨earlier, wasOpen, same⟩ := wrote.session recorder isOpen
    rw [same, events_append]
    exact tells id _ (chronicle.session earlier wasOpen id)
  · intro closing member id
    obtain wasClosed | ⟨earlier, wasOpen, _, isPart, rfl⟩ := wrote.closed closing member
    · exact chronicle.closed closing wasClosed id
    · have whole := (tells id _ (chronicle.session earlier wasOpen id)).alternates
      refine whole.of_prefix ?_
      rw [events_append]
      exact (prefix_append_right_inj _).mpr (isPart.filterMap _)

theorem kept (silent : Silent before after) (noted : after.Noted)
    (present : ∀ id conn, after.Unclosed id conn ↔ before.Unclosed id conn) : Chronicle after := by
  obtain ⟨records, wrote, silent⟩ := silent
  have nothing (id : UInt64) : events id records = [] :=
    filterMap_eq_nil_iff.mpr fun record member => silent record member id
  refine chronicle.written wrote noted ?_ ?_
  · intro id first second isFirst isSecond
    exact chronicle.single id first second ((present id first).mp isFirst) ((present id second).mp isSecond)
  · intro id _ tells
    rw [nothing, append_nil]
    exact ⟨tells.alternates, tells.last.trans (exists_congr fun conn => (present id conn).symm)⟩

theorem alike (alike : Alike before after) (silent : Silent before after) : Chronicle after :=
  chronicle.kept silent (alike.noted chronicle.noted) alike.present

theorem ended {id : UInt64} (was : before.Unclosed id conn)
    (present : ∀ each other, middle.Unclosed each other ↔ other ≠ conn ∧ before.Unclosed each other)
    (noted : middle.Noted) (recorder : middle.recorder = before.recorder)
    (recordings : middle.recordings = before.recordings)
    (announced : Announced .disconnected id middle after) : Chronicle after := by
  obtain ⟨quiet, records, wrote, told⟩ := announced
  have present' (each : UInt64) (other : Pointer) :
      after.Unclosed each other ↔ other ≠ conn ∧ before.Unclosed each other :=
    (quiet.alike.present each other).trans (present each other)
  have wrote' : Wrote records before after := by
    refine ⟨?_, ?_⟩
    · rw [← recorder]
      exact wrote.session
    · rw [← recorder, ← recordings]
      exact wrote.closed
  refine chronicle.written wrote' (quiet.alike.noted noted) ?_ ?_
  · intro each first second isFirst isSecond
    exact chronicle.single each first second ((present' each first).mp isFirst).2
      ((present' each second).mp isSecond).2
  · intro each told' tells
    rw [events, told each]
    split
    · rename_i same
      subst same
      refine tells.disconnected ⟨conn, was⟩ ?_
      rintro ⟨other, isPresent⟩
      obtain ⟨differ, wasPresent⟩ := (present' each other).mp isPresent
      exact differ (chronicle.single each other conn wasPresent was)
    · rename_i differ
      rw [append_nil]
      refine ⟨tells.alternates, tells.last.trans (exists_congr fun other => ?_)⟩
      rw [present']
      refine ⟨fun wasPresent => ⟨?_, wasPresent⟩, And.right⟩
      rintro rfl
      obtain ⟨_, found, -, sameId, -⟩ := was
      obtain ⟨_, found', -, sameId', -⟩ := wasPresent
      cases found.symm.trans found'
      exact differ (sameId'.symm.trans sameId)

theorem began {filters : List FilterMessage} {owner : Owner}
    (found : before.connections conn = some peer) (young : peer.Young)
    (notReplaced : conn ∉ before.replaced) (notTold : peer.toldGone = false)
    (nobody : ∀ other, ¬before.Unclosed peer.peerId other)
    (announced : Announced .connected peer.peerId
      (before.join conn peer filters owner) after) : Chronicle after := by
  obtain ⟨quiet, records, wrote, told⟩ := announced
  have present (each : UInt64) (other : Pointer) : after.Unclosed each other ↔
      before.Unclosed each other ∨ other = conn ∧ peer.peerId = each :=
    (quiet.alike.present each other).trans (join_present found young notReplaced each other)
  refine chronicle.written ⟨wrote.session, wrote.closed⟩
    (quiet.alike.noted (join_noted chronicle.noted notTold)) ?_ ?_
  · intro each first second isFirst isSecond
    obtain wasFirst | ⟨isNew, rfl⟩ := (present each first).mp isFirst
    · obtain wasSecond | ⟨-, rfl⟩ := (present each second).mp isSecond
      · exact chronicle.single each first second wasFirst wasSecond
      · exact absurd wasFirst (nobody first)
    · obtain wasSecond | ⟨isNew', -⟩ := (present _ second).mp isSecond
      · exact absurd wasSecond (nobody second)
      · exact isNew.trans isNew'.symm
  · intro each told' tells
    rw [events, told each]
    split
    · rename_i same
      subst same
      refine tells.connected ?_ ⟨conn, (present _ conn).mpr (.inr ⟨rfl, rfl⟩)⟩
      rintro ⟨other, wasPresent⟩
      exact nobody other wasPresent
    · rename_i differ
      rw [append_nil]
      refine ⟨tells.alternates, tells.last.trans (exists_congr fun other => ?_)⟩
      rw [present]
      exact ⟨.inl, Or.rec id fun isNew => absurd isNew.2.symm differ⟩

end

/-! ## The start of a recording -/

theorem flatMap_entry {α β γ : Type} {entries : List (α × β)} {key : α} {value : β}
    {make : α × β → List γ} {made : List γ}
    (distinct : entries.Pairwise fun first second => first.1 ≠ second.1)
    (member : (key, value) ∈ entries) (here : make (key, value) = made)
    (elsewhere : ∀ entry ∈ entries, entry.1 ≠ key → make entry = []) :
    entries.flatMap make = made := by
  induction entries with
  | nil => cases member
  | cons entry entries ih =>
    obtain ⟨first, distinct⟩ := pairwise_cons.mp distinct
    rw [flatMap_cons]
    obtain rfl | later := mem_cons.mp member
    · have rest : entries.flatMap make = [] := by
        rw [flatMap_eq_nil_iff]
        intro other isOther
        exact elsewhere other (mem_cons_of_mem _ isOther) (first other isOther).symm
      rw [here, rest, append_nil]
    · rw [elsewhere entry mem_cons_self (first (key, value) later),
        ih distinct later fun other isOther => elsewhere other (mem_cons_of_mem _ isOther)]
      rfl

theorem events_flatMap {α : Type} (id : UInt64) (list : List α) (make : α → List Record) :
    events id (list.flatMap make) = list.flatMap fun entry => events id (make entry) :=
  filterMap_flatMap

theorem events_peer (id peerId : UInt64) (kind : PeerEventKind) (type : UInt32)
    (rest : List Record) : events id (.peer kind peerId type :: rest) =
      if peerId = id then kind :: events id rest else events id rest := by
  by_cases same : peerId = id
  · simp [events, Record.event?, same]
  · simp [events, Record.event?, same]

theorem firstRecords_tells (sound : Sound none server) (noted : server.Noted)
    (settled : server.Settled) (id : UInt64) :
    Tells (∃ conn, server.Unclosed id conn) (events id server.firstRecords) := by
  obtain ⟨nobodyLeft, living⟩ := settled
  have routed (conn : Pointer) (peer : Connection) (found : server.connections conn = some peer)
      (registered : peer.registered = true) (present : conn ∉ server.replaced) :
      server.Routed conn peer := by
    refine ⟨found, registered, ?_, present⟩
    by_contra told
    rw [Bool.not_eq_false] at told
    have departed := noted conn peer found registered told present
    rw [nobodyLeft] at departed
    simp at departed
  have ofEntry (entry : UInt64 × Pointer) (member : entry ∈ server.connectionById.toList) :
      ∃ peer, server.Routed entry.2 peer ∧ peer.peerId = entry.1 :=
    (sound.byId entry.1 nofun entry.2).mp (TreeMap.mem_toList_iff_getElem?_eq_some.mp member)
  have distinct : server.connectionById.toList.Pairwise fun first second => first.1 ≠ second.1 := by
    refine TreeMap.distinct_keys_toList.imp fun differ same => differ ?_
    exact LawfulEqOrd.compare_eq_iff_eq.mpr same
  have header : events id server.firstRecords = server.connectionById.toList.flatMap fun entry =>
      if entry.1 = id then [.connected] else [] := by
    have drop : events id server.firstRecords = events id server.firstRecords.tail := rfl
    rw [drop, firstRecords, tail_cons, events_flatMap]
    refine flatMap_congr fun entry member => ?_
    obtain ⟨peer, isRouted, sameId⟩ := ofEntry entry member
    rw [isRouted.1]
    dsimp only
    rw [if_pos (living entry.2 peer isRouted), sameId, events_peer]
    have rest : events id (if peer.routing.restricted then
        [.routing entry.1 peer.peerType peer.routing] else []) = [] := by
      split <;> rfl
    rw [rest]
  rw [header]
  cases entry : server.connectionById[id]? with
  | none =>
    have nothing : (server.connectionById.toList.flatMap fun entry =>
        if entry.1 = id then [PeerEventKind.connected] else []) = [] := by
      refine flatMap_eq_nil_iff.mpr fun other member => if_neg ?_
      rintro rfl
      rw [TreeMap.mem_toList_iff_getElem?_eq_some.mp member] at entry
      cases entry
    rw [nothing]
    refine .absent ?_
    rintro ⟨conn, peer, found, registered, sameId, present⟩
    have isEntry := (sound.byId id nofun conn).mpr ⟨peer, routed conn peer found registered present, sameId⟩
    cases entry.symm.trans isEntry
  | some conn =>
    rw [flatMap_entry distinct (TreeMap.mem_toList_iff_getElem?_eq_some.mpr entry) (if_pos rfl)
      fun other _ differ => if_neg differ]
    obtain ⟨peer, isRouted, sameId⟩ := (sound.byId id nofun conn).mp entry
    have present : ∃ conn, server.Unclosed id conn :=
      ⟨conn, peer, isRouted.1, isRouted.2.1, sameId, isRouted.2.2.2⟩
    exact (Tells.absent not_false).connected not_false present

/-! ## Steps and runs -/

section

variable (chronicle : Chronicle before)

include chronicle

theorem unchanged (connections : after.connections = before.connections)
    (replaced : after.replaced = before.replaced) (departed : after.departed = before.departed)
    (silent : Silent before after) : Chronicle after := by
  refine chronicle.kept silent ?_ ?_
  · unfold Noted
    rw [connections, replaced, departed]
    exact chronicle.noted
  · intro _ _
    unfold Unclosed
    rw [connections, replaced]

theorem unseen (others : ∀ each, each ≠ conn → after.connections each = before.connections each)
    (was : ∀ peer, before.connections conn = some peer → peer.registered = false)
    (is : ∀ peer, after.connections conn = some peer → peer.registered = false)
    (replaced : after.replaced = before.replaced) (departed : after.departed = before.departed)
    (silent : Silent before after) : Chronicle after := by
  have same (each : Pointer) (peer : Connection) (registered : peer.registered = true) :
      after.connections each = some peer ↔ before.connections each = some peer := by
    by_cases isConn : each = conn
    · subst isConn
      constructor
      · intro found
        cases (is peer found).symm.trans registered
      · intro found
        cases (was peer found).symm.trans registered
    · rw [others each isConn]
  refine chronicle.kept silent ?_ ?_
  · intro each peer found registered
    rw [replaced, departed]
    exact chronicle.noted each peer ((same each peer registered).mp found) registered
  · intro _ each
    unfold Unclosed
    rw [replaced]
    refine exists_congr fun peer => ?_
    constructor
    · rintro ⟨found, registered, rest⟩
      exact ⟨(same each peer registered).mp found, registered, rest⟩
    · rintro ⟨found, registered, rest⟩
      exact ⟨(same each peer registered).mpr found, registered, rest⟩

theorem left (found : before.connections conn = some peer)
    (connections : after.connections = (before.put conn peer.gone).connections)
    (replaced : after.replaced = before.replaced)
    (departed : ∀ each ∈ before.departed, each ∈ after.departed)
    (known : conn ∈ after.departed ∨ conn ∈ before.replaced)
    (silent : Silent before after) : Chronicle after := by
  refine chronicle.kept silent ?_ (present_put connections replaced found rfl rfl)
  intro each other found' registered told present
  rw [replaced] at present
  obtain ⟨rfl, rfl⟩ | ⟨-, found'⟩ := (found_put connections).mp found'
  · exact known.resolve_right present
  · exact departed each (chronicle.noted each other found' registered told present)

theorem startRecording (sound : Sound none before)
    (settled : before.Settled) (path : Bytes) (opened : Except Bytes (Option Nat)) :
    Chronicle (before.startRecording path opened).2 := by
  unfold Server.startRecording
  split
  · exact chronicle
  · split
    · exact chronicle
    · refine ⟨chronicle.noted, chronicle.single, ?_, chronicle.closed⟩
      intro _ isOpen id
      cases isOpen
      exact firstRecords_tells sound chronicle.noted settled id

theorem plain (registry : Registry before) (step : Plain env True before after) : Chronicle after := by
  have sound := registry.sound
  cases step with
  | quiet quiet silent => exact chronicle.alike quiet.alike silent
  | startRecording path opened settled =>
    exact chronicle.startRecording sound (settled trivial) path opened
  | accept =>
    refine chronicle.unseen (fun each differ => update_of_ne differ _ _) ?_ ?_ rfl rfl (.of_same rfl rfl)
    · intro peer found
      exact absurd (sound.known _ peer found) (Nat.lt_irrefl _)
    · intro peer found
      cases (update_self _ _ _).symm.trans found
      rfl
  | own found own => exact chronicle.alike (put_alike found own.similar) (.of_same rfl rfl)
  | told found unregistered shutsDown =>
    exact chronicle.alike (put_alike found (told_similar unregistered shutsDown)) (.of_same rfl rfl)
  | left routed =>
    exact chronicle.left routed.1 rfl rfl (fun _ => Finset.mem_insert_of_mem)
      (.inl (Finset.mem_insert_self _ _)) (.of_same rfl rfl)
  | leftReplaced found _ _ replaced =>
    exact chronicle.left found rfl rfl (fun _ => id) (.inr replaced) (.of_same rfl rfl)
  | @closed conn peer found shutsDown told unclosed stays =>
    -- neither departed nor replaced, it was not registered; replaced, its end was told before
    have absent (id : UInt64) : ¬before.Unclosed id conn := by
      rintro ⟨other, found', registered, -, present⟩
      cases found.symm.trans found'
      exact stays (chronicle.noted conn peer found registered told present)
    refine chronicle.kept (.of_same rfl rfl) (close_noted chronicle.noted) fun id each => ?_
    rw [close_present]
    refine ⟨And.right, fun present => ⟨?_, present⟩⟩
    rintro rfl
    exact absent id present
  | @closedDeparted _ conn peer found shutsDown told unclosed departed announced =>
    have present : before.Unclosed peer.peerId conn := by
      obtain ⟨other, found', registered, -⟩ := sound.departed conn departed
      cases found.symm.trans found'
      exact ⟨peer, found, registered, rfl, fun replaced => sound.apart conn replaced departed⟩
    exact chronicle.ended present close_present (close_noted chronicle.noted) rfl rfl announced
  | destroyed found closed =>
    obtain ⟨-, -, unregistered⟩ := (sound.steady _ _ found).closed closed
    refine chronicle.unseen (fun each differ => update_of_ne differ _ _) ?_ ?_ rfl rfl (.of_same rfl rfl)
    · intro other found'
      cases found.symm.trans found'
      exact unregistered
    · intro _ found'
      cases (update_self _ _ _).symm.trans found'
  | introduced id type routing found young =>
    exact chronicle.alike (put_alike found (introduced_similar young id type routing)) (.of_same rfl rfl)
  | picked =>
    exact chronicle.unchanged rfl rfl rfl (.of_same rfl rfl)
  | @filtered _ _ filters _ found registered told set =>
    have filtered := chronicle.alike (put_alike found (filtered_similar filters)) (.of_same rfl rfl)
    exact filtered.unchanged rfl rfl rfl (.of_same rfl rfl)
  | _ => exact chronicle.unchanged rfl rfl rfl (.of_same rfl rfl)

theorem step {pending pending' : Option Pending} (registry : Registry before)
    (step : Step env True (pending, before) (pending', after)) : Chronicle after := by
  have sound := registry.sound
  have fresh {conn : Pointer} {peer : Connection}
      (found : before.connections conn = some peer) (young : peer.Young) :
      conn ∉ before.replaced ∧ peer.toldGone = false := by
    refine ⟨fun member => ?_, ((sound.steady conn peer found).young young).2.2.2.1⟩
    obtain ⟨other, found', registered⟩ := sound.replaced conn member
    cases found.symm.trans found'
    exact not_young registered young
  have only {id : UInt64} {conn : Pointer} (clear : before.Clear id)
      (present : before.Unclosed id conn) :
      ∃ peer, before.Routed conn peer ∧ peer.peerId = id := by
    obtain ⟨other, found, registered, sameId, present⟩ := present
    refine ⟨other, ⟨found, registered, ?_, present⟩, sameId⟩
    by_contra told
    rw [Bool.not_eq_false] at told
    exact clear conn (chronicle.noted conn other found registered told present) other found sameId
  cases step with
  | plain _ step => exact chronicle.plain registry step
  | took found young | declared set => exact chronicle.unchanged rfl rfl rfl (.of_same rfl rfl)
  | refused found _ own =>
    have changed := chronicle.alike (put_alike found own.similar) (.of_same rfl rfl)
    exact changed.unchanged rfl rfl rfl (.of_same rfl rfl)
  | @joined _ _ conn peer owner filters found young absent clear announced =>
    obtain ⟨notReplaced, notTold⟩ := fresh found young
    refine chronicle.began found young notReplaced notTold (fun other present => ?_) announced
    obtain ⟨earlier, routed, sameId⟩ := only (clear trivial) present
    have entry := (sound.byId _ nofun other).mpr ⟨earlier, routed, sameId⟩
    cases absent.symm.trans entry
  | @joinedOver _ middle _ conn previous peer earlier owner filters found young routed same
      loops clear gone announced =>
    obtain ⟨notReplaced, notTold⟩ := fresh found young
    have was : before.Unclosed peer.peerId previous :=
      ⟨earlier, routed.1, routed.2.1, same, routed.2.2.2⟩
    have ended : Chronicle middle := chronicle.ended was displace_present
      (displace_noted chronicle.noted) rfl rfl gone
    have found' := displaced_young found young routed gone.1
    have differ : conn ≠ previous := by
      rintro rfl
      cases routed.eq found
      exact not_young routed.2.1 young
    have notReplaced' : conn ∉ middle.replaced := by
      rw [gone.1.alike.replaced]
      exact fun member => notReplaced (Finset.mem_of_mem_insert_of_ne member differ)
    refine ended.began found' young notReplaced' notTold (fun other present => ?_) announced
    obtain ⟨apart, wasPresent⟩ :=
      (displace_present _ other).mp ((gone.1.alike.present _ other).mp present)
    exact apart (chronicle.single _ other previous wasPresent was)

theorem steps {pending pending' : Option Pending} (registry : Registry before)
    (steps : Steps env True (pending, before) (pending', after)) : Chronicle after :=
  steps.keeps (fun _ => Chronicle) chronicle fun taken chronicle step =>
    chronicle.step (registry.steps taken) step

end

end Chronicle

/-- A run every action of which finds the server such that the events stay in order. -/
def OrderlyRun (env : Surroundings Regex) : List Action → Server Regex → Prop
  | [], _ => True
  | action :: actions, server => server.Orderly action ∧
    ∀ after, server.act env action = some after → OrderlyRun env actions after

theorem Chronicle.run {actions : List Action} (chronicle : Chronicle server)
    (held : Held env server) (finds : OrderlyRun env actions server)
    (ran : run env actions server = some after) : Chronicle after := by
  induction actions generalizing server with
  | nil =>
    cases ran
    exact chronicle
  | cons _ _ ih =>
    obtain ⟨middle, acted, ran⟩ := bind_eq_some_iff.mp ran
    obtain ⟨orderly, later⟩ := finds
    obtain ⟨steps, -⟩ := act_steps held (fun _ : True => orderly) acted
    exact ih (chronicle.steps held.registry steps) (held.act acted) (later middle acted) ran

theorem Fresh.chronicle (fresh : server.Fresh) (recorder : server.recorder = none)
    (recordings : server.recordings = []) : Chronicle server where
  noted _ _ found := absurd found fresh.found
  single _ _ _ first := absurd first.choose_spec.1 fresh.found
  session _ isOpen := by
    cases recorder.symm.trans isOpen
  closed _ member := by
    rw [recordings] at member
    cases member

theorem start_chronicle (instanceId : UInt64) (loops : Bool) (config : Config) (remoteRecording allowTap : Bool) :
    Chronicle (start instanceId loops config remoteRecording allowTap : Server Regex) :=
  (start_fresh instanceId loops config remoteRecording allowTap).chronicle rfl rfl

/-- No connection of that id has left routing and is still read to its end. -/
def NoneDeparted (id : UInt64) (server : Server Regex) : Prop :=
  ∀ conn ∈ server.departed, ∀ peer, server.connections conn = some peer → peer.peerId ≠ id

theorem Chronicle.unclosed_iff (chronicle : Chronicle server) (registry : Registry server) {id : UInt64}
    (none : server.NoneDeparted id) :
    (∃ conn, server.Unclosed id conn) ↔ (server.connectionById[id]?).isSome := by
  have byId := registry.sound.byId id nofun
  rw [isSome_iff_exists]
  refine exists_congr fun conn => ?_
  rw [byId]
  constructor
  · rintro ⟨peer, found, registered, sameId, present⟩
    refine ⟨peer, ⟨found, registered, ?_, present⟩, sameId⟩
    by_contra told
    rw [Bool.not_eq_false] at told
    exact none conn (chronicle.noted conn peer found registered told present) peer found sameId
  · rintro ⟨peer, routed, sameId⟩
    exact ⟨peer, routed.1, routed.2.1, sameId, routed.2.2.2⟩

/-- In every recording of an orderly run the events of an id are CONNECTED and DISCONNECTED in turn,
and the last one under way tells whether a connection with the id is registered, unless one with the
id has left routing and is still read to its end. -/
theorem peer_events_alternate {instanceId : UInt64} {loops : Bool} {config : Config}
    {remoteRecording allowTap : Bool} {actions : List Action}
    (orderly : OrderlyRun env actions (start instanceId loops config remoteRecording allowTap))
    (ran : run env actions (start instanceId loops config remoteRecording allowTap) =
      some server) (id : UInt64) : (∀ records ∈ server.recordings, Alternates (events id records)) ∧
      ∀ recorder, server.recorder = some recorder → Alternates (events id recorder.records) ∧
          (server.NoneDeparted id → ((events id recorder.records).getLast? = some .connected ↔
            (server.connectionById[id]?).isSome)) := by
  have held : Held env (start instanceId loops config remoteRecording allowTap) :=
    start_held instanceId loops config remoteRecording allowTap
  have chronicle := (start_chronicle instanceId loops config remoteRecording allowTap).run held orderly ran
  obtain ⟨-, registry, -⟩ := run_steps held ran
  refine ⟨fun records member => chronicle.closed records member id, fun recorder isOpen => ?_⟩
  have tells := chronicle.session recorder isOpen id
  exact ⟨tells.alternates, fun none => tells.last.trans (chronicle.unclosed_iff registry none)⟩

def comesRecorded : List Action :=
  [.startRecording [] (.ok none), .accept, .welcome 0 { type := 100, id := 7 } (none, some [])]

theorem comesRecorded_shows :
    (run plainSurroundings comesRecorded (start 1 false {} false false)).map (fun server =>
        (server.departed, server.recorder.map fun recorder => events 7 recorder.records)) =
      some (∅, some [.connected]) := by
  decide

theorem peer_events_alternate_comesRecorded :
    ∃ server, run plainSurroundings comesRecorded (start 1 false {} false false) = some server ∧
      server.NoneDeparted 7 ∧ (server.connectionById[(7 : UInt64)]?).isSome := by
  obtain ⟨server, ran, shows⟩ := map_eq_some_iff.mp comesRecorded_shows
  obtain ⟨departed, shows⟩ := Prod.mk.inj shows
  obtain ⟨recorder, isOpen, told⟩ := map_eq_some_iff.mp shows
  have orderly : OrderlyRun plainSurroundings comesRecorded (start 1 false {} false false) := by
    refine ⟨⟨rfl, fun _ _ routed => nomatch routed.1⟩, fun recording acted => ?_⟩
    cases acted
    refine ⟨trivial, fun accepted acted => ?_⟩
    cases acted
    exact ⟨fun conn departed => absurd departed (Finset.notMem_empty conn), fun _ _ => trivial⟩
  have none : server.NoneDeparted 7 := fun conn member =>
    absurd (departed ▸ member) (Finset.notMem_empty conn)
  refine ⟨server, ran, none, ?_⟩
  have theirs := peer_events_alternate orderly ran 7
  refine ((theirs.2 recorder isOpen).2 none).mp ?_
  rw [told]
  rfl

/-- A peer whose connection is read to its end comes again before that has closed. -/
def readsOn : List Action :=
  [.startRecording [] (.ok none), .accept, .welcome 0 { type := 100, id := 7 } (none, some []),
    .stopsWriting 0 true, .accept, .welcome 1 { type := 100, id := 7 } (none, some []), .dies 0]

theorem readsOn_overlaps :
    (run plainSurroundings readsOn (start 1 false {} false false)).map (fun server =>
        (server.recorder.map fun recorder => events 7 recorder.records, server.connectionById[(7 : UInt64)]?)) =
      some (some [.connected, .connected, .disconnected], some 1) := by
  decide

end Multiplexer.Server
