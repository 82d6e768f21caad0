import RouteGo.Bookings.Service

/-!
# Live rows

`SeatDisjoint L t` says that no two different rows of `t` that satisfy `L` share
a leg of a seat. It holds of the confirmed rows when no leg is sold twice. For
the rows that are live at an instant it is kept by a granted hold, whatever
notion of live is meant, as long as the availability query counts live rows and
no row comes to life by waiting (`LiveNotion`).
-/

namespace RouteGo.Bookings

/-- The rows that satisfy `L` do not overlap on a seat. -/
def SeatDisjoint (L : Booking → Prop) (bookings : BookingTable) : Prop :=
  ∀ a ∈ bookings.rows, ∀ b ∈ bookings.rows, a.id ≠ b.id → a.SameSeat b → L a → L b → ¬ a.Overlaps b

theorem SeatDisjoint.mono {L L' : Booking → Prop} {bookings : BookingTable}
    (h : SeatDisjoint L bookings) (hL : ∀ b, L' b → L b) : SeatDisjoint L' bookings :=
  fun a ha b hb hne hs hla hlb => h a ha b hb hne hs (hL a hla) (hL b hlb)

theorem SeatDisjoint.empty {L : Booking → Prop} : SeatDisjoint L Table.empty :=
  fun _ ha => absurd ha List.not_mem_nil

/-- A notion of a row being live at an instant. -/
structure LiveNotion where
  Live : Int → Booking → Prop
  active : ∀ {t b}, Live t b → isActive t b = true
  antitone : ∀ {t t' b}, t ≤ t' → Live t' b → Live t b

/-- What `findActiveBookingsForSeat` counts. -/
def queryLive : LiveNotion where
  Live t b := isActive t b = true
  active h := h
  antitone := isActive_mono

/-- `CONFIRMED`, or `PENDING` with an expiry that is still to come. -/
def Unexpired (t : Int) (b : Booking) : Prop :=
  b.status = .CONFIRMED ∨ (b.status = .PENDING ∧ ∃ e, b.holdExpiresAt = some e ∧ t < e)

theorem isActive_of_unexpired {t : Int} {b : Booking} (h : Unexpired t b) :
    isActive t b = true := by
  rcases h with h | ⟨h, e, he, hlt⟩
  · exact isActive_of_confirmed h
  · simp [isActive, h, he, hlt]

theorem Unexpired.antitone {t t' : Int} {b : Booking} (htt : t ≤ t') (h : Unexpired t' b) :
    Unexpired t b := by
  rcases h with h | ⟨h, e, he, hlt⟩
  · exact .inl h
  · exact .inr ⟨h, e, he, by omega⟩

def expiryLive : LiveNotion where
  Live := Unexpired
  active := isActive_of_unexpired
  antitone := Unexpired.antitone

/-- A granted hold overlaps no live row from the instant of its query on. -/
theorem Granted.not_overlaps (N : LiveNotion) {env : Env} {tQuery tStamp now : Int}
    {bookings bookings' : BookingTable} {a : HoldArgs} {b c : Booking}
    (h : Granted env tQuery tStamp bookings a b bookings') (ht : tQuery ≤ now)
    (hc : c ∈ bookings.rows) (hs : c.SameSeat b) (hl : N.Live now c) : ¬ c.Overlaps b :=
  h.free c hc hs (N.active (N.antitone ht hl))

theorem Granted.seatDisjoint (N : LiveNotion) {env : Env} {tQuery tStamp now : Int}
    {bookings bookings' : BookingTable} {a : HoldArgs} {b : Booking}
    (h : Granted env tQuery tStamp bookings a b bookings') (ht : tQuery ≤ now)
    (hd : SeatDisjoint (N.Live now) bookings) : SeatDisjoint (N.Live now) bookings' := by
  intro c hc d hd' hne hs hlc hld hov
  rcases (Table.mem_of_insert h.insert).mp hc with hc | rfl <;>
    rcases (Table.mem_of_insert h.insert).mp hd' with hd' | rfl
  · exact hd c hc d hd' hne hs hlc hld hov
  · exact h.not_overlaps N ht hc hs hlc hov
  · exact h.not_overlaps N ht hd' hs.symm hld hov.symm
  · exact hne rfl

/-- A status write keeps the live rows disjoint when the row it writes is not
live afterwards, or was live before, or has no live row in its way. -/
theorem SeatDisjoint.setStatus {L : Booking → Prop} {bookings : BookingTable} {id : String}
    {s : BookingStatus} (hd : SeatDisjoint L bookings)
    (hw : ∀ b ∈ bookings.rows, b.id = id → L (b.withStatus s) →
      ∀ c ∈ bookings.rows, c.id ≠ id → c.SameSeat b → L c → ¬ c.Overlaps b) :
    SeatDisjoint L (setStatus bookings id s) := by
  intro c hc d hd' hne hs hlc hld hov
  rcases mem_setStatus.mp hc with ⟨hc, hcid⟩ | ⟨b, hb, hbid, rfl⟩ <;>
    rcases mem_setStatus.mp hd' with ⟨hd', hdid⟩ | ⟨b', hb', hbid', rfl⟩
  · exact hd c hc d hd' hne hs hlc hld hov
  · exact hw b' hb' hbid' hld c hc hcid hs hlc hov
  · exact hw b hb hbid hlc d hd' hdid hs.symm hld hov.symm
  · exact hne (hbid.trans hbid'.symm)

/-- A row that was live may take any status. -/
theorem SeatDisjoint.setStatus_of_live {L : Booking → Prop} {bookings : BookingTable} {id : String}
    {s : BookingStatus} (hd : SeatDisjoint L bookings)
    (hw : ∀ b ∈ bookings.rows, b.id = id → L (b.withStatus s) → L b) :
    SeatDisjoint L (Bookings.setStatus bookings id s) :=
  hd.setStatus fun b hb hbid hl c hc hcid hs hlc =>
    hd c hc b hb (by rw [hbid]; exact hcid) hs hlc (hw b hb hbid hl)

theorem not_isActive_withStatus {now : Int} {b : Booking} {s : BookingStatus}
    (hs : s ≠ .PENDING ∧ s ≠ .CONFIRMED) : ¬ isActive now (b.withStatus s) = true := by
  cases s <;> simp_all [isActive, Booking.withStatus]

end RouteGo.Bookings
