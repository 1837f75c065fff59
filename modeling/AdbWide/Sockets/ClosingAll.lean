import AdbWide.Sockets.Reachability

/-!
# Closing all sockets of a transport

`close_all_sockets` goes through the list of local sockets and starts again from its head whenever
it has closed one, because that may have taken others off the list.  This file proves that it comes
to an end, and which sockets are left.
-/

namespace AdbWide
namespace Sockets

/-- `close_all_sockets` goes through the list so many times, the last time without a match. -/
inductive Scans (t : Nat) : Server → Nat → Server → Prop where
  | last {server : Server} :
      server.localSocketList.find? (server.onTransport t) = none → Scans t server 1 server
  | restart {server server' : Server} {a scans : Nat} :
      server.localSocketList.find? (server.onTransport t) = some a →
      Scans t (server.localSocketCloseLocked a) scans server' →
      Scans t server (scans + 1) server'

theorem Scans.onTransport_eq {t scans : Nat} {server server' : Server}
    (run : Scans t server scans server') :
    ∀ a ∈ server'.localSocketList, server'.onTransport t a = false := by
  induction run with
  | last none_found => simpa using none_found
  | restart _ _ induction => exact induction

/-! ## Which sockets match -/

variable {server server' : Server} {t a b : Nat} {s : Asocket}

theorem onTransport_iff (server : Server) (t a : Nat) :
    server.onTransport t a = true ↔ ∃ s, server.sockets a = some s ∧
      (s.transport = some t ∨
        ∃ b r, s.peer = some b ∧ server.sockets b = some r ∧ r.transport = some t) := by
  cases live : server.sockets a with
  | none => simp [Server.onTransport, Server.peerOf, live]
  | some s =>
      cases peer : s.peer with
      | none => simp [Server.onTransport, Server.peerOf, live, peer]
      | some b => simp [Server.onTransport, Server.peerOf, live, peer, Option.any_eq_true]

/-- A socket matches when its peer does. -/
theorem onTransport_of_peer (consistent : Consistent server) (live : server.sockets a = some s)
    (peer : s.peer = some b) (matching : server.onTransport t a = true) :
    server.onTransport t b = true := by
  obtain ⟨r, live_b, peer_b⟩ := consistent.symmetric a s b live peer
  rw [onTransport_iff] at matching ⊢
  obtain ⟨s', live', mine | ⟨b', r', peer', live_b', its⟩⟩ := matching
  · cases live.symm.trans live'
    exact ⟨r, live_b, .inr ⟨a, s, peer_b, live, mine⟩⟩
  · cases live.symm.trans live'
    cases peer.symm.trans peer'
    exact ⟨r', live_b', .inl its⟩

/-- What was not closed matches as before. -/
theorem onTransport_of_closes {gone : Nat → Prop} (consistent : Consistent server)
    (closes : Closes server server' gone) (kept : ¬gone a) :
    server'.onTransport t a = server.onTransport t a := by
  have others : ∀ s b, server.sockets a = some s → s.peer = some b →
      server'.sockets b = server.sockets b := by
    intro s b live peer
    obtain ⟨r, live_b, peer_b⟩ := consistent.symmetric a s b live peer
    exact closes.others b fun gone_b => kept (closes.peers b r a gone_b live_b peer_b)
  rw [Bool.eq_iff_iff, onTransport_iff, onTransport_iff, closes.others a kept]
  refine exists_congr fun s => and_congr_right fun live => or_congr_right ?_
  refine exists_congr fun b => exists_congr fun r => and_congr_right fun peer => ?_
  rw [others s b live peer]

/-! ## The loop -/

/-- A sublist without repetitions that keeps exactly what has a property is the filtered list. -/
theorem eq_filter_of_sublist {items kept : List Nat} {property : Nat → Bool}
    (sublist : kept.Sublist items) (nodup : items.Nodup)
    (mem : ∀ item, item ∈ kept ↔ item ∈ items ∧ property item = true) :
    kept = items.filter property := by
  have all : kept.filter property = kept :=
    List.filter_eq_self.mpr fun item inside => ((mem item).mp inside).2
  have smaller : kept.Sublist (items.filter property) := all ▸ sublist.filter property
  refine smaller.eq_of_length_le ((nodup.filter property).subperm ?_).length_le
  intro item inside
  exact (mem item).mpr (List.mem_filter.mp inside)

/-- One round takes the socket and its peer off the list, and both match. -/
theorem closes_of_found (consistent : Consistent server)
    (found : server.localSocketList.find? (server.onTransport t) = some a) :
    ∃ gone : Nat → Prop, Closes server (server.localSocketCloseLocked a) gone ∧ gone a ∧
      ∀ c, gone c → server.onTransport t c = true := by
  obtain ⟨s, live, isLocal, -⟩ := consistent.listed a (List.mem_of_find?_eq_some found)
  refine ⟨_, closes_localSocketCloseLocked consistent live isLocal, .inl rfl, ?_⟩
  rintro c (rfl | peer)
  · exact List.find?_some found
  · exact onTransport_of_peer consistent live peer (List.find?_some found)

/-- With a round for each listed socket and one more the loop ends by itself.  It closes exactly the
sockets that match. -/
theorem closeAllSocketsLoop_spec {rounds : Nat} (consistent : Consistent server)
    (enough : server.localSocketList.length < rounds) :
    (∃ scans ≤ server.localSocketList.length + 1,
        Scans t server scans (Server.closeAllSocketsLoop t rounds server)) ∧
      (∀ c, server.onTransport t c = false →
        (Server.closeAllSocketsLoop t rounds server).sockets c = server.sockets c) ∧
      (Server.closeAllSocketsLoop t rounds server).localSocketList =
        server.localSocketList.filter fun c => !server.onTransport t c := by
  induction rounds generalizing server with
  | zero => omega
  | succ rounds induction =>
      simp only [Server.closeAllSocketsLoop]
      cases found : server.localSocketList.find? (server.onTransport t) with
      | none =>
          refine ⟨⟨1, by omega, .last found⟩, fun _ _ => rfl, ?_⟩
          rw [eq_comm, List.filter_eq_self]
          simpa using found
      | some a =>
          obtain ⟨gone, closes, gone_a, matching⟩ := closes_of_found consistent found
          have shorter : (server.localSocketCloseLocked a).localSocketList.length <
              server.localSocketList.length := by
            refine Nat.lt_of_le_of_ne closes.sublist.length_le fun same => ?_
            have whole := closes.sublist.eq_of_length same
            have listed := List.mem_of_find?_eq_some found
            rw [← whole] at listed
            exact ((closes.mem_list a).mp listed).2 gone_a
          have kept : ∀ c, server.onTransport t c = false → ¬gone c := by
            intro c other gone_c
            rw [matching c gone_c] at other
            cases other
          obtain ⟨⟨scans, few, run⟩, sockets, list⟩ :=
            induction (consistent.closes closes) (by omega)
          refine ⟨⟨scans + 1, by omega, .restart found run⟩, fun c other => ?_, ?_⟩
          · rw [sockets c, closes.others c (kept c other)]
            rw [onTransport_of_closes consistent closes (kept c other)]
            exact other
          · rw [list]
            refine eq_filter_of_sublist (List.filter_sublist.trans closes.sublist)
              consistent.list_nodup fun c => ?_
            rw [List.mem_filter, closes.mem_list, Bool.not_eq_true', Bool.not_eq_true']
            constructor
            · rintro ⟨⟨listed, left⟩, other⟩
              exact ⟨listed, (onTransport_of_closes consistent closes left).symm.trans other⟩
            · rintro ⟨listed, other⟩
              have left := kept c other
              exact ⟨⟨listed, left⟩, (onTransport_of_closes consistent closes left).trans other⟩

/-- `close_all_sockets` goes through the list at most once for each listed socket and once more.
Afterwards no listed socket matches, every other socket is as it was, and those on the list are
still in the same order. -/
theorem closeAllSockets_spec {server : Server} (consistent : Consistent server) (t : Nat) :
    (∃ scans ≤ server.localSocketList.length + 1,
        Scans t server scans (server.closeAllSockets t)) ∧
      (∀ a ∈ (server.closeAllSockets t).localSocketList,
        (server.closeAllSockets t).onTransport t a = false) ∧
      (∀ a, server.onTransport t a = false →
        (server.closeAllSockets t).sockets a = server.sockets a) ∧
      (server.closeAllSockets t).localSocketList =
        server.localSocketList.filter fun a => !server.onTransport t a := by
  obtain ⟨⟨scans, few, run⟩, others, list⟩ :=
    closeAllSocketsLoop_spec (t := t) consistent (Nat.lt_succ_self _)
  exact ⟨⟨scans, few, run⟩, run.onTransport_eq, others, list⟩

/-- Two devices connect, and each opens a stream. -/
def twoStreams : List (Step × Outside) :=
  [(.packet 0 ⟨.cnxn, Server.aVersion, maxPayload, []⟩, {}), (.packet 0 ⟨.open, 7, 0, []⟩, {}),
    (.packet 1 ⟨.cnxn, Server.aVersion, maxPayload, []⟩, {}), (.packet 1 ⟨.open, 8, 0, []⟩, {})]

/-- The socket of the other transport is left. -/
theorem closeAllSockets_spec_twoStreams :
    (Server.run twoStreams).localSocketList = [0, 2] ∧
      ((Server.run twoStreams).closeAllSockets 0).localSocketList = [2] := by
  have reachable : Reachable ServerStep Server.start (Server.run twoStreams) :=
    reachable_run (by simp [twoStreams, Step.Allowed])
  refine ⟨by with_unfolding_all decide, ?_⟩
  rw [(closeAllSockets_spec (consistent_of_reachable reachable) 0).2.2.2]
  with_unfolding_all decide

end Sockets
end AdbWide
