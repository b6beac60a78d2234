import IncaCook.Library.Globs
import IncaCook.Model.Realtime

/-!
# Routing of realtime events

A kind of event has a channel for every id and a room for every id. The channel is the id
between a fixed beginning and a fixed end. The four beginnings differ in their first
character, and so no channel of one kind, whatever its id says, is taken for one of another:
neither by the subscriptions, nor by the tests of the `pmessage` handler, nor by the rooms.

Main results:

* `jsSlice_between`: the handler cuts out the id that the publisher put in;
* `subscribes_iff`: a channel matches the pattern of its own kind only;
* `fanOut_routes`: every publication is passed to the room of its kind and id, once.
-/

namespace IncaCook

namespace Tracking

open Glob

/-- The kinds of realtime events. -/
inductive Kind where
  | driverLoc | orderStatus | conversation | userDelivery
  deriving DecidableEq, Repr

namespace Kind

def front : Kind → String
  | driverLoc => locPrefix
  | orderStatus => statusPrefix
  | conversation => convPrefix
  | userDelivery => userPrefix

def back : Kind → String
  | driverLoc => locSuffix
  | orderStatus => statusSuffix
  | conversation => convSuffix
  | userDelivery => userSuffix

def pattern : Kind → String
  | driverLoc => locPattern
  | orderStatus => statusPattern
  | conversation => convPattern
  | userDelivery => userPattern

/-- The channel builder of the kind. -/
def channel : Kind → String → String
  | driverLoc => driverLocChannel
  | orderStatus => orderStatusChannel
  | conversation => conversationChannel
  | userDelivery => userDeliveryChannel

/-- The room that a socket joins for events of this kind. -/
def room : Kind → String → String
  | driverLoc, deliveryId => "delivery:" ++ deliveryId
  | orderStatus, orderId => "order:" ++ orderId
  | conversation, conversationId => "conv:" ++ conversationId
  | userDelivery, userId => "user:" ++ userId

def event : Kind → String
  | driverLoc => "driver:location"
  | orderStatus => "order:status"
  | conversation => "message:new"
  | userDelivery => "delivery:cancelled"

variable {kind kind' : Kind}

theorem channel_eq (kind : Kind) (id : String) : kind.channel id = kind.front ++ id ++ kind.back := by
  cases kind <;> rfl

theorem room_eq (kind : Kind) (id : String) : kind.room id = kind.front ++ id := by
  cases kind <;> rfl

theorem pattern_eq (kind : Kind) : kind.pattern = kind.front ++ "*" ++ kind.back := by
  cases kind <;> decide

theorem plain_front (kind : Kind) : Plain kind.front := by cases kind <;> decide

theorem plain_back (kind : Kind) : Plain kind.back := by cases kind <;> decide

/-- The beginnings of two kinds differ in their first character. -/
theorem eq_of_front_append {rest rest' : String} (heq : kind.front ++ rest = kind'.front ++ rest') :
    kind = kind' := by
  have hhead : ∀ (kind : Kind) (rest : String),
      (kind.front ++ rest).toList.head? = kind.front.toList.head? := by
    intro kind rest
    rw [String.toList_append, List.head?_append_of_ne_nil]
    cases kind <;> decide
  have hheads : kind.front.toList.head? = kind'.front.toList.head? := by
    rw [← hhead kind rest, heq, hhead]
  revert hheads
  cases kind <;> cases kind' <;> decide

/-- **No two pairs of a kind and an id share a room.** -/
theorem room_injective {id id' : String} (heq : kind.room id = kind'.room id') :
    kind = kind' ∧ id = id' := by
  rw [room_eq, room_eq] at heq
  obtain rfl := eq_of_front_append heq
  -- one beginning for both, so what follows it is the same
  exact ⟨rfl, (String.append_right_inj _).mp heq⟩

end Kind

/-! ## Cutting the id out -/

theorem jsStartsWith_iff {s t : String} : jsStartsWith s t = true ↔ ∃ rest, s = t ++ rest := by
  rw [jsStartsWith, List.isPrefixOf_iff_prefix]
  constructor
  · rintro ⟨rest, hrest⟩
    refine ⟨String.ofList rest, String.toList_inj.mp ?_⟩
    rw [String.toList_append, String.toList_ofList, hrest]
  · rintro ⟨rest, rfl⟩
    exact ⟨rest.toList, String.toList_append.symm⟩

theorem jsEndsWith_append (s t : String) : jsEndsWith (s ++ t) t = true := by
  rw [jsEndsWith, List.isSuffixOf_iff_suffix, String.toList_append]
  exact List.suffix_append _ _

/-- The text between a beginning and an end is what remains when both are cut off. -/
theorem jsSlice_between (front text back : String) :
    jsSlice (front ++ text ++ back) front.length ((front ++ text ++ back).length - back.length) =
      text := by
  have hfront : ((front ++ text) ++ back).toList.take (front ++ text).length =
      front.toList ++ text.toList := by
    rw [← String.length_toList, String.toList_append (s := front ++ text), List.take_left,
      String.toList_append]
  rw [String.length_append, Nat.add_sub_cancel, jsSlice, hfront, ← String.length_toList, List.drop_left,
    String.ofList_toList]

theorem jsStartsWith_channel (kind kind' : Kind) (id : String) :
    jsStartsWith (kind.channel id) kind'.front = decide (kind = kind') := by
  rw [Bool.eq_iff_iff, jsStartsWith_iff, decide_eq_true_eq, Kind.channel_eq, String.append_assoc]
  constructor
  · rintro ⟨rest, hrest⟩
    exact Kind.eq_of_front_append hrest
  · rintro rfl
    exact ⟨_, rfl⟩

theorem jsEndsWith_channel (kind : Kind) (id : String) :
    jsEndsWith (kind.channel id) kind.back = true := by
  rw [Kind.channel_eq]
  exact jsEndsWith_append _ _

theorem jsSlice_channel (kind : Kind) (id : String) :
    jsSlice (kind.channel id) kind.front.length ((kind.channel id).length - kind.back.length) = id := by
  rw [Kind.channel_eq]
  exact jsSlice_between ..

/-! ## From the channel to the room -/

variable {Json : Type} {subscribes : String → String → Bool} {parse : String → Option Json}
  {stringify : Payload → String}

/-- The handler passes a message on a channel to the room of its kind and id. -/
theorem pmessage_channel (kind : Kind) (id message : String) :
    pmessage parse (kind.channel id) message = emit parse (kind.room id) kind.event message := by
  have hstart := jsStartsWith_channel kind
  have hend := jsEndsWith_channel kind id
  have hslice := jsSlice_channel kind id
  have hloc := hstart .driverLoc id
  have hstatus := hstart .orderStatus id
  have huser := hstart .userDelivery id
  have hconv := hstart .conversation id
  -- the handler tries the four beginnings in turn, and only that of the channel's kind fits
  cases kind <;>
    simp_all [pmessage, Kind.front, Kind.back, Kind.room, Kind.event]

/-- **A channel matches the pattern of its own kind, and no other.** -/
theorem subscribes_iff (hglob : GlobStyle subscribes) (kind kind' : Kind) (id : String) :
    subscribes kind'.pattern (kind.channel id) = decide (kind = kind') := by
  rw [Bool.eq_iff_iff, decide_eq_true_eq, Kind.pattern_eq,
    hglob.star kind'.plain_front kind'.plain_back, Kind.channel_eq]
  constructor
  · -- whatever stands for the `*`, the two beginnings agree
    rintro ⟨middle, hmiddle⟩
    rw [String.append_assoc, String.append_assoc] at hmiddle
    exact Kind.eq_of_front_append hmiddle
  · rintro rfl
    exact ⟨id, rfl⟩

theorem matching_patterns (hglob : GlobStyle subscribes) (kind : Kind) (id : String) :
    patterns.filter (subscribes · (kind.channel id)) = [kind.pattern] := by
  have hpatterns : patterns =
      [Kind.driverLoc, Kind.orderStatus, Kind.conversation, Kind.userDelivery].map Kind.pattern := rfl
  rw [hpatterns, List.filter_map]
  simp only [Function.comp_def, subscribes_iff hglob]
  cases kind <;> rfl

/-- How a publication for an id is routed: one pattern matches its channel, and its message
is emitted once, to the room of that kind and id. -/
structure Routed (subscribes : String → String → Bool) (parse : String → Option Json) (kind : Kind)
    (id : String) (publication : Publication) : Prop where
  one_pattern : patterns.filter (subscribes · publication.channel) = [kind.pattern]
  emitted : fanOut subscribes parse publication =
    (parse publication.message).toList.map fun payload => ⟨kind.room id, kind.event, payload⟩

theorem routed_channel (hglob : GlobStyle subscribes) (kind : Kind) (id message : String) :
    Routed subscribes parse kind id ⟨kind.channel id, message⟩ where
  one_pattern := matching_patterns hglob kind id
  emitted := by
    rw [fanOut, matching_patterns hglob, List.flatMap_singleton, pmessage_channel, emit]

/-- Encoding and decoding of channels are inverse to each other: whatever is published, by
the builders or by hand, is routed to its kind and id, and rooms are not shared. -/
structure RoundTrip (subscribes : String → String → Bool) (parse : String → Option Json) : Prop where
  channels : ∀ kind id message, Routed subscribes parse kind id ⟨kind.channel id, message⟩
  order_status_changed : ∀ stringify orderId status now, Routed subscribes parse .orderStatus orderId
    (publishOrderStatusChanged stringify orderId status now)
  status : ∀ stringify orderId status now, Routed subscribes parse .orderStatus orderId
    (publishStatus stringify orderId status now)
  delivery_cancelled : ∀ stringify driverId deliveryId orderId status reason message now,
    Routed subscribes parse .userDelivery driverId
      (publishDeliveryCancelledToDriver stringify driverId deliveryId orderId status reason message now)
  message : ∀ stringify conversationId payload, Routed subscribes parse .conversation conversationId
    (publish stringify conversationId payload)
  location : ∀ stringify deliveryId lat lng headingDeg speedMps now,
    Routed subscribes parse .driverLoc deliveryId
      (publishLocation stringify deliveryId lat lng headingDeg speedMps now)
  rooms : ∀ (kind kind' : Kind) (id id' : String),
    kind.room id = kind'.room id' → kind = kind' ∧ id = id'

/-- **Realtime routing is a round trip**, whatever the ids say. -/
theorem fanOut_routes (hglob : GlobStyle subscribes) : RoundTrip subscribes parse where
  channels := routed_channel hglob
  order_status_changed _ orderId _ _ := routed_channel hglob .orderStatus orderId _
  status _ orderId _ _ := routed_channel hglob .orderStatus orderId _
  delivery_cancelled _ driverId _ _ _ _ _ _ := routed_channel hglob .userDelivery driverId _
  message _ conversationId _ := routed_channel hglob .conversation conversationId _
  location _ deliveryId _ _ _ _ _ := routed_channel hglob .driverLoc deliveryId _
  rooms _ _ _ _ := Kind.room_injective

/-- A driver's position is emitted to the room of the delivery, although the id of the
delivery looks like a channel of another kind. -/
theorem location_of_odd_delivery :
    (fanOut (fun pattern text => accepts pattern.toList text.toList)
      (fun text => if text = "true" then some true else none)
      ⟨driverLocChannel "order:7:status", "true"⟩ : List (Emission Bool)) =
      [⟨"delivery:order:7:status", "driver:location", true⟩] :=
  ((fanOut_routes globStyle_accepts).channels .driverLoc "order:7:status" "true").emitted

end Tracking

end IncaCook
