/-!
Events: what the host reports to the program. One table gives for every kind its name, the types of
its arguments in order, the type of its result, and the result when nobody handles it. Arguments and
results are scalars only; floats are bit patterns.
-/
namespace HostBridge

/-- The type of one argument. -/
inductive Scalar where
  | int
  | long
  | float
  | double
  | boolean
  deriving DecidableEq, Repr

namespace Scalar

/-- The values of a type. -/
def Carrier : Scalar → Type
  | int => Int32
  | long => Int64
  | float => UInt32
  | double => UInt64
  | boolean => Bool

def zero : (t : Scalar) → t.Carrier
  | int => (0 : Int32)
  | long => (0 : Int64)
  | float => (0 : UInt32)
  | double => (0 : UInt64)
  | boolean => false

end Scalar

/-- A value together with its type. -/
inductive Datum where
  | int (n : Int32)
  | long (n : Int64)
  | float (bits : UInt32)
  | double (bits : UInt64)
  | boolean (b : Bool)
  deriving DecidableEq, Repr

namespace Datum

/-- A value with its type made explicit. -/
def of : (t : Scalar) → t.Carrier → Datum
  | .int, n => .int n
  | .long, n => .long n
  | .float, b => .float b
  | .double, b => .double b
  | .boolean, b => .boolean b

/-- The value if it has type `t`. -/
def as? : (t : Scalar) → Datum → Option t.Carrier
  | .int, .int n => some n
  | .long, .long n => some n
  | .float, .float b => some b
  | .double, .double b => some b
  | .boolean, .boolean b => some b
  | _, _ => none

@[simp] theorem as?_of (t : Scalar) (x : t.Carrier) : (of t x).as? t = some x := by
  cases t <;> rfl

end Datum

/-- One value for each of the types. -/
def Args : List Scalar → Type
  | [] => Unit
  | t :: ts => t.Carrier × Args ts

namespace Args

/-- The values with their types, in order. -/
def toList : {ts : List Scalar} → Args ts → List Datum
  | [], _ => []
  | t :: _, (x, rest) => Datum.of t x :: toList rest

/-- Values for the types from a list; what is missing or of another type is zero. -/
def ofList : (ts : List Scalar) → List Datum → Args ts
  | [], _ => ()
  | t :: ts, [] => (t.zero, ofList ts [])
  | t :: ts, x :: rest => ((x.as? t).getD t.zero, ofList ts rest)

theorem length_toList : {ts : List Scalar} → (a : Args ts) → a.toList.length = ts.length
  | [], _ => rfl
  | _ :: _, (_, rest) => congrArg (· + 1) (length_toList rest)

@[simp] theorem ofList_toList : {ts : List Scalar} → (a : Args ts) → ofList ts a.toList = a
  | [], _ => rfl
  | t :: _, (x, rest) => by
    change (((Datum.of t x).as? t).getD t.zero, ofList _ (toList rest)) = (x, rest)
    rw [Datum.as?_of, ofList_toList rest, Option.getD_some]

end Args

/-- A result together with its type: nothing, a number, or a boolean. -/
inductive Reply where
  | unit
  | int (n : Int32)
  | boolean (b : Bool)
  deriving DecidableEq, Repr

namespace Reply

/-- The results of the same type. -/
def Carrier : Reply → Type
  | unit => Unit
  | int _ => Int32
  | boolean _ => Bool

/-- The result without its type. -/
def value : (r : Reply) → r.Carrier
  | unit => ()
  | int n => n
  | boolean b => b

/-- The reply of the same type as `r` with another value. -/
def set : (r : Reply) → r.Carrier → Reply
  | unit, _ => unit
  | int _, n => int n
  | boolean _, b => boolean b

@[simp] theorem set_value (r : Reply) : r.set r.value = r := by
  cases r <;> rfl

end Reply

/-- The kinds of events. -/
inductive EventKind where
  | blockBreak
  | blockInteract
  | tick
  | proxyBlockBreak
  | proxyBlockUse
  | proxyBlockSteppedOn
  | proxyBlockFallenUpon
  | proxyBlockRandomTick
  | proxyBlockPlaced
  | proxyBlockRemoved
  | proxyBlockNeighborChanged
  | proxyBlockEntityInside
  | blockEntityTick
  | blockEntityGetDataSlot
  | blockEntitySetDataSlot
  | blockEntityRemoved
  | playerJoin
  | playerLeave
  | playerRespawn
  | playerAttackEntity
  | playerPickupItem
  | serverStarting
  | serverStarted
  | serverStopping
  | registryReady
  | screenInit
  | screenTick
  | screenRender
  | screenClose
  | screenKeyPressed
  | screenKeyReleased
  | screenCharTyped
  | screenMouseClicked
  | screenMouseReleased
  | screenMouseDragged
  | screenMouseScrolled
  | widgetPressed
  | containerScreenInit
  | containerScreenRenderBg
  | containerScreenClose
  | containerSlotClick
  | containerMayPickup
  | proxyEntitySpawn
  | proxyEntityTick
  | proxyEntityAttack
  | proxyEntityTarget
  deriving DecidableEq, Repr, Inhabited

/-- A row of the table. -/
structure EventInfo where
  name : String
  variant : String
  params : List Scalar
  default : Reply

namespace EventKind

/-- Every kind, in the order of the table. -/
def all : List EventKind :=
  [blockBreak, blockInteract, tick, proxyBlockBreak, proxyBlockUse, proxyBlockSteppedOn,
   proxyBlockFallenUpon, proxyBlockRandomTick, proxyBlockPlaced, proxyBlockRemoved,
   proxyBlockNeighborChanged, proxyBlockEntityInside, blockEntityTick, blockEntityGetDataSlot,
   blockEntitySetDataSlot, blockEntityRemoved, playerJoin, playerLeave, playerRespawn,
   playerAttackEntity, playerPickupItem, serverStarting, serverStarted, serverStopping,
   registryReady, screenInit, screenTick, screenRender, screenClose, screenKeyPressed,
   screenKeyReleased, screenCharTyped, screenMouseClicked, screenMouseReleased,
   screenMouseDragged, screenMouseScrolled, widgetPressed, containerScreenInit,
   containerScreenRenderBg, containerScreenClose, containerSlotClick, containerMayPickup,
   proxyEntitySpawn, proxyEntityTick, proxyEntityAttack, proxyEntityTarget]

/-- The table. -/
def info : EventKind → EventInfo
  | blockBreak =>
    -- x, y, z, player_id
    ⟨"block_break", "BlockBreak", [.int, .int, .int, .long], .int 1⟩
  | blockInteract =>
    -- x, y, z, player_id, hand
    ⟨"block_interact", "BlockInteract", [.int, .int, .int, .long, .int], .int 1⟩
  | tick =>
    -- tick
    ⟨"tick", "Tick", [.long], .unit⟩
  | proxyBlockBreak =>
    -- handler_id, world_id, x, y, z, player_id
    ⟨"proxy_block_break", "ProxyBlockBreak",
      [.long, .long, .int, .int, .int, .long], .boolean true⟩
  | proxyBlockUse =>
    -- handler_id, world_id, x, y, z, player_id, hand
    ⟨"proxy_block_use", "ProxyBlockUse", [.long, .long, .int, .int, .int, .long, .int], .int 3⟩
  | proxyBlockSteppedOn =>
    -- handler_id, world_id, x, y, z, entity_id
    ⟨"proxy_block_stepped_on", "ProxyBlockSteppedOn",
      [.long, .long, .int, .int, .int, .int], .unit⟩
  | proxyBlockFallenUpon =>
    -- handler_id, world_id, x, y, z, entity_id, fall_distance
    ⟨"proxy_block_fallen_upon", "ProxyBlockFallenUpon",
      [.long, .long, .int, .int, .int, .int, .float], .unit⟩
  | proxyBlockRandomTick =>
    -- handler_id, world_id, x, y, z
    ⟨"proxy_block_random_tick", "ProxyBlockRandomTick", [.long, .long, .int, .int, .int], .unit⟩
  | proxyBlockPlaced =>
    -- handler_id, world_id, x, y, z, player_id
    ⟨"proxy_block_placed", "ProxyBlockPlaced", [.long, .long, .int, .int, .int, .long], .unit⟩
  | proxyBlockRemoved =>
    -- handler_id, world_id, x, y, z
    ⟨"proxy_block_removed", "ProxyBlockRemoved", [.long, .long, .int, .int, .int], .unit⟩
  | proxyBlockNeighborChanged =>
    -- handler_id, world_id, x, y, z, neighbor_x, neighbor_y, neighbor_z
    ⟨"proxy_block_neighbor_changed", "ProxyBlockNeighborChanged",
      [.long, .long, .int, .int, .int, .int, .int, .int], .unit⟩
  | proxyBlockEntityInside =>
    -- handler_id, world_id, x, y, z, entity_id
    ⟨"proxy_block_entity_inside", "ProxyBlockEntityInside",
      [.long, .long, .int, .int, .int, .int], .unit⟩
  | blockEntityTick =>
    -- handler_id, block_pos
    ⟨"block_entity_tick", "BlockEntityTick", [.int, .long], .unit⟩
  | blockEntityGetDataSlot =>
    -- handler_id, block_pos, index
    ⟨"block_entity_get_data_slot", "BlockEntityGetDataSlot", [.int, .long, .int], .int 0⟩
  | blockEntitySetDataSlot =>
    -- handler_id, block_pos, index, value
    ⟨"block_entity_set_data_slot", "BlockEntitySetDataSlot", [.int, .long, .int, .int], .unit⟩
  | blockEntityRemoved =>
    -- handler_id, block_pos
    ⟨"block_entity_removed", "BlockEntityRemoved", [.int, .long], .unit⟩
  | playerJoin =>
    -- player_id
    ⟨"player_join", "PlayerJoin", [.int], .unit⟩
  | playerLeave =>
    -- player_id
    ⟨"player_leave", "PlayerLeave", [.int], .unit⟩
  | playerRespawn =>
    -- player_id, end_conquered
    ⟨"player_respawn", "PlayerRespawn", [.int, .boolean], .unit⟩
  | playerAttackEntity =>
    -- player_id, target_id
    ⟨"player_attack_entity", "PlayerAttackEntity", [.int, .int], .boolean true⟩
  | playerPickupItem =>
    -- player_id, item_entity_id
    ⟨"player_pickup_item", "PlayerPickupItem", [.int, .int], .boolean true⟩
  | serverStarting =>
    ⟨"server_starting", "ServerStarting", [], .unit⟩
  | serverStarted =>
    ⟨"server_started", "ServerStarted", [], .unit⟩
  | serverStopping =>
    ⟨"server_stopping", "ServerStopping", [], .unit⟩
  | registryReady =>
    ⟨"registry_ready", "RegistryReady", [], .unit⟩
  | screenInit =>
    -- screen_id, width, height
    ⟨"screen_init", "ScreenInit", [.long, .int, .int], .unit⟩
  | screenTick =>
    -- screen_id
    ⟨"screen_tick", "ScreenTick", [.long], .unit⟩
  | screenRender =>
    -- screen_id, mouse_x, mouse_y, partial_tick
    ⟨"screen_render", "ScreenRender", [.long, .int, .int, .float], .unit⟩
  | screenClose =>
    -- screen_id
    ⟨"screen_close", "ScreenClose", [.long], .unit⟩
  | screenKeyPressed =>
    -- screen_id, key_code, scan_code, modifiers
    ⟨"screen_key_pressed", "ScreenKeyPressed", [.long, .int, .int, .int], .boolean false⟩
  | screenKeyReleased =>
    -- screen_id, key_code, scan_code, modifiers
    ⟨"screen_key_released", "ScreenKeyReleased", [.long, .int, .int, .int], .boolean false⟩
  | screenCharTyped =>
    -- screen_id, code_point, modifiers
    ⟨"screen_char_typed", "ScreenCharTyped", [.long, .int, .int], .boolean false⟩
  | screenMouseClicked =>
    -- screen_id, mouse_x, mouse_y, button
    ⟨"screen_mouse_clicked", "ScreenMouseClicked", [.long, .double, .double, .int], .boolean false⟩
  | screenMouseReleased =>
    -- screen_id, mouse_x, mouse_y, button
    ⟨"screen_mouse_released", "ScreenMouseReleased",
      [.long, .double, .double, .int], .boolean false⟩
  | screenMouseDragged =>
    -- screen_id, mouse_x, mouse_y, button, drag_x, drag_y
    ⟨"screen_mouse_dragged", "ScreenMouseDragged",
      [.long, .double, .double, .int, .double, .double], .boolean false⟩
  | screenMouseScrolled =>
    -- screen_id, mouse_x, mouse_y, delta_x, delta_y
    ⟨"screen_mouse_scrolled", "ScreenMouseScrolled",
      [.long, .double, .double, .double, .double], .boolean false⟩
  | widgetPressed =>
    -- screen_id, widget_id
    ⟨"widget_pressed", "WidgetPressed", [.long, .long], .unit⟩
  | containerScreenInit =>
    -- screen_id, width, height, left_pos, top_pos, image_width, image_height
    ⟨"container_screen_init", "ContainerScreenInit",
      [.long, .int, .int, .int, .int, .int, .int], .unit⟩
  | containerScreenRenderBg =>
    -- screen_id, mouse_x, mouse_y, partial_tick, left_pos, top_pos
    ⟨"container_screen_render_bg", "ContainerScreenRenderBg",
      [.long, .int, .int, .float, .int, .int], .unit⟩
  | containerScreenClose =>
    -- screen_id
    ⟨"container_screen_close", "ContainerScreenClose", [.long], .unit⟩
  | containerSlotClick =>
    -- menu_id, slot_index, button, click_type
    ⟨"container_slot_click", "ContainerSlotClick", [.long, .int, .int, .int], .int 0⟩
  | containerMayPickup =>
    -- menu_id, slot_index
    ⟨"container_may_pickup", "ContainerMayPickup", [.long, .int], .boolean true⟩
  | proxyEntitySpawn =>
    -- handler_id, entity_id, world_id
    ⟨"proxy_entity_spawn", "ProxyEntitySpawn", [.long, .int, .long], .unit⟩
  | proxyEntityTick =>
    -- handler_id, entity_id
    ⟨"proxy_entity_tick", "ProxyEntityTick", [.long, .int], .unit⟩
  | proxyEntityAttack =>
    -- handler_id, entity_id, target_id
    ⟨"proxy_entity_attack", "ProxyEntityAttack", [.long, .int, .int], .unit⟩
  | proxyEntityTarget =>
    -- handler_id, entity_id, target_id
    ⟨"proxy_entity_target", "ProxyEntityTarget", [.long, .int, .int], .unit⟩

def name (k : EventKind) : String := k.info.name

def variant (k : EventKind) : String := k.info.variant

def params (k : EventKind) : List Scalar := k.info.params

/-- The results of the kind. -/
def Output (k : EventKind) : Type := k.info.default.Carrier

/-- The result when no handler gives one. -/
def default (k : EventKind) : k.Output := k.info.default.value

/-- A result with its type made explicit. -/
def reply (k : EventKind) (x : k.Output) : Reply := k.info.default.set x

def ofName? (s : String) : Option EventKind := all.find? (·.name == s)

/-- The place of the kind in the table. -/
def index (k : EventKind) : Nat := all.idxOf k

/-- Kinds after which the microtasks that wait are run. -/
def drainsMicrotasks : EventKind → Bool
  | tick | serverStarted => true
  | _ => false

@[simp] theorem mem_all (k : EventKind) : k ∈ all := by
  cases k <;> decide

end EventKind
end HostBridge
