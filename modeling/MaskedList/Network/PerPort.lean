import MaskedList.Network.Basic

/-!
# Networks with a world for each port

What is beyond one port knows nothing of the other ports: it has a world of its own, and
time passes there only while something is done on the port.  To the client, for which there
is one clock, the time spent on all ports adds up.
-/

namespace MaskedList

/-- The worlds beyond the ports, and the time that was spent on all of them. -/
structure PortWorlds (ω : Type) where
  clock : Nat := 0
  world : UInt16 → ω

namespace PortWorlds

variable {ω α : Type}

/-- Runs an operation in the world of one port. -/
def visit (network : Network ω) (port : UInt16) (operation : ω → α × ω)
    (worlds : PortWorlds ω) : α × PortWorlds ω :=
  let before := worlds.world port
  let (result, after) := operation before
  (result, {
    clock := worlds.clock + (network.time after - network.time before)
    world := fun other => if other = port then after else worlds.world other })

variable (network : Network ω) (port : UInt16) (operation : ω → α × ω) (worlds : PortWorlds ω)

@[simp]
theorem visit_fst :
    (worlds.visit network port operation).1 = (operation (worlds.world port)).1 := rfl

@[simp]
theorem clock_visit :
    (worlds.visit network port operation).2.clock = worlds.clock +
      (network.time (operation (worlds.world port)).2 - network.time (worlds.world port)) := rfl

@[simp]
theorem world_visit_self :
    (worlds.visit network port operation).2.world port = (operation (worlds.world port)).2 :=
  if_pos rfl

theorem world_visit_of_ne {other : UInt16} (hne : other ≠ port) :
    (worlds.visit network port operation).2.world other = worlds.world other :=
  if_neg hne

theorem clock_le_visit : worlds.clock ≤ (worlds.visit network port operation).2.clock := by
  rw [clock_visit]
  omega

variable {network port operation worlds}

/-- A visit comes to what the operation comes to in the world of the port. -/
theorem operation_of_visit {result : α} {after : PortWorlds ω}
    (h : worlds.visit network port operation = (result, after)) :
    operation (worlds.world port) = (result, after.world port) := by
  have hresult : (operation (worlds.world port)).1 = result := by
    rw [← visit_fst network, h]
  have hworld : (operation (worlds.world port)).2 = after.world port := by
    rw [← world_visit_self network, h]
  exact Prod.ext hresult hworld

end PortWorlds

/-- The network that has, beyond each port, a world of the given one. -/
def Network.perPort {ω : Type} (network : Network ω) : Network (PortWorlds ω) where
  time := PortWorlds.clock
  patience worlds channel := network.patience (worlds.world channel.port) channel
  connect channel host timeout :=
    PortWorlds.visit network channel.port (network.connect channel host timeout)
  allow channel span := PortWorlds.visit network channel.port (network.allow channel span)
  read channel limit := PortWorlds.visit network channel.port (network.read channel limit)
  write channel bytes := PortWorlds.visit network channel.port (network.write channel bytes)
  flush channel := PortWorlds.visit network channel.port (network.flush channel)
  close channel := PortWorlds.visit network channel.port (network.close channel)
  read_length_le h := network.read_length_le (PortWorlds.operation_of_visit h)
  write_le_length h := network.write_le_length (PortWorlds.operation_of_visit h)
  connect_time_le _ _ _ _ := PortWorlds.clock_le_visit _ _ _ _
  allow_time_le _ _ _ := PortWorlds.clock_le_visit _ _ _ _
  read_time_le _ _ _ := PortWorlds.clock_le_visit _ _ _ _
  write_time_le _ _ _ := PortWorlds.clock_le_visit _ _ _ _
  flush_time_le _ _ := PortWorlds.clock_le_visit _ _ _ _
  close_time_le _ _ := PortWorlds.clock_le_visit _ _ _ _
  allow_patience_le channel span before := by
    rw [PortWorlds.world_visit_self]
    exact network.allow_patience_le channel span (before.world channel.port)
  allow_interrupted := by
    intro channel span before error after h hinterrupted
    have hallow := PortWorlds.operation_of_visit h
    have hless := network.allow_interrupted hallow hinterrupted
    have hclock : after.clock = before.clock +
        (network.time (after.world channel.port) - network.time (before.world channel.port)) := by
      have hvisit :=
        PortWorlds.clock_visit network channel.port (network.allow channel span) before
      rwa [h, hallow] at hvisit
    show network.patience (after.world channel.port) channel <
        network.patience (before.world channel.port) channel ∨ before.clock < after.clock
    omega
  read_interrupted h hinterrupted :=
    network.read_interrupted (PortWorlds.operation_of_visit h) hinterrupted
  write_interrupted h hinterrupted :=
    network.write_interrupted (PortWorlds.operation_of_visit h) hinterrupted

end MaskedList
