namespace RfBoard

class Elementary where
  pow : Float → Float → Float
  atan2 : Float → Float → Float

instance : Elementary := ⟨Float.pow, Float.atan2⟩

end RfBoard
