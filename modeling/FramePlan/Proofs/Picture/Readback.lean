import FramePlan.Picture.Readback
import FramePlan.Proofs.Lists

/-!
# Nothing is lost in a readback

A device copies rows of bytes, and their padding is taken off in floats: the row length is rounded up to a
multiple of 256 bytes, a fourth of it is the length of the pieces that the floats are cut into, and of each
piece the floats of the pixels are kept. Whatever the size of the image, every channel of every pixel
arrives at its place, and there are just as many floats as a picture of the size needs.

* `getElem?_pieces`: which piece of a list is where.
* `unpad?_eq_none_iff`: when the padding cannot be taken off.
* `exists_unpad?`: what is kept of data of the right length.
* `readback_is_lossless`: an image that a device has copied is read back as it is.
-/

namespace FramePlan.Readback

/-- The piece of a list at a place, if the list reaches so far. -/
def piece? {α : Type} (length : Nat) (items : List α) (place : Nat) : Option (List α) :=
  if place * length < items.length then some ((items.drop (place * length)).take length) else none

/-- Pieces follow one another without a gap. -/
theorem getElem?_pieces {α : Type} {length : Nat} (hpos : 0 < length) (items : List α)
    (place : Nat) : (pieces length hpos items)[place]? = piece? length items place := by
  unfold piece?
  fun_induction pieces length hpos items generalizing place with
  | case1 => simp
  | case2 first rest ih =>
    cases place with
    | zero => simp
    | succ place =>
      have hshift : (place + 1) * length = length + place * length := by
        rw [Nat.succ_mul, Nat.add_comm]
      have hinside : place * length < (first :: rest).length - length ↔
          length + place * length < (first :: rest).length := by omega
      rw [List.getElem?_cons_succ, ih, List.length_drop, List.drop_drop, hshift]
      simp only [hinside]

theorem mem_take_pieces {α : Type} {length : Nat} {hpos : 0 < length} {items row : List α}
    {count : Nat} :
    row ∈ (pieces length hpos items).take count ↔
      ∃ place < count, piece? length items place = some row := by
  simp only [List.mem_iff_getElem?, List.getElem?_take, Option.ite_none_right_eq_some,
    getElem?_pieces]

/-- The padding cannot be taken off where pieces have no length, or where one of the rows is there
but too short. -/
theorem unpad?_eq_none_iff {data : List Single} {width height rowFloats : Nat} :
    unpad? data width height rowFloats = none ↔
      rowFloats = 0 ∨ ∃ place < height, ∃ row, piece? rowFloats data place = some row ∧
        row.length < 4 * width := by
  unfold unpad?
  split
  · next hpos =>
    have hsome : rowFloats ≠ 0 := Nat.pos_iff_ne_zero.1 hpos
    simp only [ite_eq_right_iff, reduceCtorEq, imp_false, List.all_eq_true, decide_eq_true_eq,
      mem_take_pieces, hsome, false_or, not_forall]
    constructor
    · rintro ⟨row, ⟨place, hplace, hrow⟩, hshort⟩
      exact ⟨place, hplace, row, hrow, Nat.lt_of_not_le hshort⟩
    · rintro ⟨place, hplace, row, hrow, hshort⟩
      exact ⟨row, ⟨place, hplace, hrow⟩, Nat.not_le_of_lt hshort⟩
  · next hzero =>
    have hnone : rowFloats = 0 := Nat.eq_zero_of_not_pos hzero
    simp [hnone]

section Whole

variable {data : List Single} {width height rowFloats : Nat}

/-- Data of whole rows has a piece for every row. -/
theorem piece?_of_length (hpos : 0 < rowFloats) (hlength : data.length = rowFloats * height)
    {place : Nat} (hplace : place < height) :
    piece? rowFloats data place = some ((data.drop (place * rowFloats)).take rowFloats) := by
  have hinside : place * rowFloats < data.length := by
    rw [hlength, Nat.mul_comm]
    exact Nat.mul_lt_mul_of_pos_left hplace hpos
  rw [piece?, if_pos hinside]

theorem take_pieces_of_length (hpos : 0 < rowFloats) (hlength : data.length = rowFloats * height) :
    (pieces rowFloats hpos data).take height =
      (List.range height).map fun place => (data.drop (place * rowFloats)).take rowFloats := by
  apply List.ext_getElem?
  intro place
  rw [List.getElem?_take, getElem?_pieces, List.getElem?_map]
  by_cases hplace : place < height
  · rw [if_pos hplace, piece?_of_length hpos hlength hplace, List.getElem?_range hplace]
    rfl
  · rw [if_neg hplace, List.getElem?_eq_none (by simpa using hplace)]
    rfl

/-- The floats of the pixels in the row at a place. -/
def keptRow (data : List Single) (width rowFloats place : Nat) : List Single :=
  ((data.drop (place * rowFloats)).take rowFloats).take (4 * width)

theorem length_row (hlength : data.length = rowFloats * height) {place : Nat}
    (hplace : place < height) :
    ((data.drop (place * rowFloats)).take rowFloats).length = rowFloats := by
  have hroom : (place + 1) * rowFloats ≤ rowFloats * height := by
    rw [Nat.mul_comm rowFloats]
    exact Nat.mul_le_mul_right rowFloats hplace
  rw [Nat.succ_mul] at hroom
  rw [List.length_take, List.length_drop, hlength]
  omega

theorem unpad?_of_length (hpos : 0 < rowFloats) (hwidth : 4 * width ≤ rowFloats)
    (hlength : data.length = rowFloats * height) :
    unpad? data width height rowFloats =
      some ((List.range height).flatMap (keptRow data width rowFloats)) := by
  have hlong : ((List.range height).map fun place =>
      (data.drop (place * rowFloats)).take rowFloats).all
        (fun row => decide (4 * width ≤ row.length)) = true := by
    rw [List.all_map, List.all_eq_true]
    intro place hplace
    simp only [Function.comp_apply, length_row hlength (List.mem_range.1 hplace), hwidth,
      decide_true]
  unfold unpad?
  rw [dif_pos hpos]
  dsimp only
  rw [take_pieces_of_length hpos hlength, if_pos hlong, List.flatMap_map]
  rfl

/-- Of data of whole rows that are long enough, the pixels of every row are kept at their places. -/
theorem exists_unpad? (hpos : 0 < rowFloats) (hwidth : 4 * width ≤ rowFloats)
    (hlength : data.length = rowFloats * height) :
    ∃ kept, unpad? data width height rowFloats = some kept ∧
      kept.length = 4 * (width * height) ∧
      ∀ x y channel, x < width → y < height → channel < 4 →
        kept[4 * (y * width + x) + channel]? = data[y * rowFloats + 4 * x + channel]? := by
  have hkept : ∀ place ∈ List.range height, (keptRow data width rowFloats place).length =
      4 * width := by
    intro place hplace
    rw [keptRow, List.length_take, length_row hlength (List.mem_range.1 hplace)]
    exact Nat.min_eq_left hwidth
  refine ⟨_, unpad?_of_length hpos hwidth hlength, ?_, ?_⟩
  · rw [length_flatMap_of_length hkept, List.length_range, Nat.mul_left_comm, Nat.mul_comm height]
  · intro x y channel hx hy hchannel
    have hinner : 4 * x + channel < 4 * width := by omega
    have hrow : (keptRow data width rowFloats y)[4 * x + channel]? =
        data[y * rowFloats + 4 * x + channel]? := by
      rw [keptRow, List.getElem?_take, if_pos hinner, List.getElem?_take,
        if_pos (Nat.lt_of_lt_of_le hinner hwidth), List.getElem?_drop, Nat.add_assoc]
    have hinside : 4 * x + channel < (keptRow data width rowFloats y).length := by
      rw [hkept y (List.mem_range.2 hy)]
      exact hinner
    have hplace : 4 * (y * width + x) + channel = y * (4 * width) + (4 * x + channel) := by
      rw [Nat.mul_left_comm y]
      omega
    rw [← hrow, List.getElem?_eq_getElem hinside, hplace]
    exact getElem?_flatMap_of_length hkept (List.getElem?_range hy)
      (List.getElem?_eq_getElem hinside)

end Whole

/-- As many channels as a picture of a size has make one, four to a pixel. -/
theorem exists_ofChannels? {width height : Nat} {channels : List Single}
    (hcount : 4 * (width * height) < UInt64.size)
    (hlength : channels.length = 4 * (width * height)) :
    ∃ picture, Picture.ofChannels? width height channels = some picture ∧
      picture.width = width ∧ picture.height = height ∧
      ∀ place (channel : Fin 4), place < width * height →
        picture.pixels[place]?.map (·.get channel) = channels[4 * place + channel.val]? := by
  have henough : 4 * (width * height) < UInt64.size ∧ 4 * (width * height) ≤ channels.length :=
    ⟨hcount, Nat.le_of_eq hlength.symm⟩
  refine ⟨_, dif_pos henough, rfl, rfl, ?_⟩
  intro place channel hplace
  have hinside : 4 * place + channel.val < channels.length := by
    have := channel.isLt
    omega
  have hpixel : place < (List.ofFn fun place : Fin (width * height) =>
      Vector.ofFn fun channel : Fin 4 => channels[4 * place.val + channel.val]).length := by
    rw [List.length_ofFn]
    exact hplace
  rw [List.getElem?_eq_getElem hpixel, List.getElem?_eq_getElem hinside, List.getElem_ofFn,
    Option.map_some]
  exact congrArg some (Vector.getElem_ofFn channel.isLt)

/-- The distance between the rows of an image is a multiple of 256 bytes. -/
theorem dvd_rowBytes (width : Nat) : 256 ∣ rowBytes width pixelBytes := dvd_roundUp _ _

theorem le_rowBytes (width : Nat) : 16 * width ≤ rowBytes width pixelBytes := by
  rw [Nat.mul_comm]
  exact le_roundUp (by decide)

theorem rowBytes_le {width multiple : Nat} (hdvd : 256 ∣ multiple) (hle : 16 * width ≤ multiple) :
    rowBytes width pixelBytes ≤ multiple := by
  rw [Nat.mul_comm] at hle
  exact roundUp_le (by decide) hdvd hle

/-- The distance between the rows of an image is the least multiple of 256 bytes that holds a row. Of the
floats that a device copies for the image, the padding can be taken off; what is kept are the channels of
the pixels, and they make a picture of the size. So an image is never found to have the wrong size. In
general the padding can be taken off unless rows have no length or one of those of the image is there
but too short. -/
theorem readback_is_lossless {width height : UInt32} (hwidth : 1 ≤ width.toNat)
    (hfits : rowBytes width.toNat pixelBytes < UInt32.size) :
    (256 ∣ rowBytes width.toNat pixelBytes ∧ 16 * width.toNat ≤ rowBytes width.toNat pixelBytes ∧
      ∀ multiple, 256 ∣ multiple → 16 * width.toNat ≤ multiple →
        rowBytes width.toNat pixelBytes ≤ multiple) ∧
    (∀ data : List Single,
      data.length = rowBytes width.toNat pixelBytes / 4 * height.toNat →
      (∃ kept, unpad? data width.toNat height.toNat (rowBytes width.toNat pixelBytes / 4) =
          some kept ∧
        kept.length = 4 * (width.toNat * height.toNat) ∧
        ∀ x y channel, x < width.toNat → y < height.toNat → channel < 4 →
          kept[4 * (y * width.toNat + x) + channel]? =
            data[y * (rowBytes width.toNat pixelBytes / 4) + 4 * x + channel]?) ∧
      (∃ picture, read? .color width height data = some (.ok picture) ∧
        picture.width = width.toNat ∧ picture.height = height.toNat ∧
        ∀ x y (channel : Fin 4), x < width.toNat → y < height.toNat →
          picture.pixels[y * width.toNat + x]?.map (·.get channel) =
            data[y * (rowBytes width.toNat pixelBytes / 4) + 4 * x + channel.val]?) ∧
      ∀ format floats, read? format width height data ≠
        some (.error (.sizeMismatch floats))) ∧
    ∀ (data : List Single) (width height rowFloats : Nat),
      unpad? data width height rowFloats = none ↔
        rowFloats = 0 ∨ ∃ place < height, ∃ row, piece? rowFloats data place = some row ∧
          row.length < 4 * width := by
  have hroom := le_rowBytes width.toNat
  refine ⟨⟨dvd_rowBytes _, hroom, fun _ => rowBytes_le⟩, ?_, fun _ _ _ _ => unpad?_eq_none_iff⟩
  intro data hlength
  have hpos : 0 < rowBytes width.toNat pixelBytes / 4 := by omega
  have hfloats : 4 * width.toNat ≤ rowBytes width.toNat pixelBytes / 4 := by omega
  obtain ⟨kept, hunpad, hcount, hkept⟩ := exists_unpad? hpos hfloats hlength
  have hcountable : 4 * (width.toNat * height.toNat) < UInt64.size := by
    have hnarrow : width.toNat ≤ 0x10000000 := by
      have : rowBytes width.toNat pixelBytes < 0x100000000 := hfits
      omega
    have hlow : height.toNat ≤ 0x100000000 := Nat.le_of_lt height.toNat_lt
    have harea := Nat.mul_le_mul hnarrow hlow
    have : 4 * (width.toNat * height.toNat) < 0x10000000000000000 := by omega
    exact this
  obtain ⟨picture, hpicture, hpictureWidth, hpictureHeight, hpixels⟩ :=
    exists_ofChannels? hcountable hcount
  have hread : read? .color width height data = some (.ok picture) := by
    simp only [read?, check, if_true, hunpad, Option.map_some, hpicture]
  refine ⟨⟨kept, hunpad, hcount, hkept⟩,
    ⟨picture, hread, hpictureWidth, hpictureHeight, ?_⟩, ?_⟩
  · intro x y channel hx hy
    have hplace : y * width.toNat + x < width.toNat * height.toNat := by
      have hrow : (y + 1) * width.toNat ≤ height.toNat * width.toNat :=
        Nat.mul_le_mul_right _ hy
      rw [Nat.succ_mul, Nat.mul_comm height.toNat] at hrow
      omega
    rw [hpixels _ channel hplace]
    exact hkept x y channel hx hy channel.isLt
  · intro format floats hmismatch
    cases format with
    | color =>
      rw [hread] at hmismatch
      cases hmismatch
    | depth => cases hmismatch

/-- What a device copies for an image of two rows with seventeen pixels each: numbered floats, of which the
last sixty of every row are padding. -/
def copiedSample : List Single := (List.range 256).map fun place => ⟨place.toUInt32⟩

/-- The last pixel of the sample comes from behind the padding of the first row. -/
theorem readback_is_lossless_sample :
    1 ≤ (17 : UInt32).toNat ∧ rowBytes (17 : UInt32).toNat pixelBytes = 512 ∧
      copiedSample.length = rowBytes (17 : UInt32).toNat pixelBytes / 4 * (2 : UInt32).toNat ∧
      ∃ picture, read? .color 17 2 copiedSample = some (.ok picture) ∧
        picture.pixels[33]?.map (·.get 3) = some ⟨195⟩ := by
  have hwidth : 1 ≤ (17 : UInt32).toNat := by decide
  have hrow : rowBytes (17 : UInt32).toNat pixelBytes = 512 := by decide
  have hfits : rowBytes (17 : UInt32).toNat pixelBytes < UInt32.size := by
    rw [hrow]
    decide
  have hlength : copiedSample.length =
      rowBytes (17 : UInt32).toNat pixelBytes / 4 * (2 : UInt32).toNat := by
    rw [hrow, copiedSample, List.length_map, List.length_range]
    rfl
  obtain ⟨_, hdata, _⟩ := @readback_is_lossless 17 2 hwidth hfits
  obtain ⟨_, ⟨picture, hread, _, _, hpixels⟩, _⟩ := hdata copiedSample hlength
  refine ⟨hwidth, hrow, hlength, picture, hread, ?_⟩
  have hlast := hpixels 16 1 3 (by decide) (by decide)
  rw [hrow] at hlast
  exact hlast.trans (by rfl)

end FramePlan.Readback
