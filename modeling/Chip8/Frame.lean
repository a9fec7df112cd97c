namespace Chip8

/-- A picture: one colour per pixel, row by row from the top left. -/
structure Frame where
  width : UInt32
  height : UInt32
  pixels : List UInt32
  deriving DecidableEq

/-- The picture of the given size whose pixels are all zero. -/
def Frame.blank (width height : UInt32) : Frame :=
  ⟨width, height, List.replicate (width.toNat * height.toNat) 0⟩

end Chip8
