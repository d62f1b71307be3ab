/-! Equality of byte arrays. -/
namespace RecordStore

/-- Byte arrays are equal if they hold the same bytes. -/
instance (priority := 1100) instDecidableEqBytes : DecidableEq ByteArray := fun a b =>
  if h : a.data = b.data then .isTrue (ByteArray.ext h) else .isFalse fun e => h (congrArg _ e)

end RecordStore
