import RecordStore.Schema.Basic

/-! Two schemas that between them use every type of field. -/
namespace RecordStore.Samples

/-- A property with what follows from its name and type. -/
def property (id : UInt32) (uid : UInt64) (name : String) (type : FieldType) : Property :=
  .ofType ⟨id, uid⟩ name (.field type)

def entity (id : UInt32) (uid : UInt64) (name : String) (last : IdUid) (ps : List Property) :
    Entity :=
  (ps.foldl Entity.push (.ofName ⟨id, uid⟩ name last)).resolveIdentifier

def task : Entity := entity 1 1000 "Task" ⟨6, 1006⟩ [
  property 1 1001 "id" .u64,
  property 2 1002 "text" .text,
  (property 3 1003 "priority" .i32).withFlags ⟨8⟩,
  property 4 1004 "done" .bool,
  property 5 1005 "payload" .bytes,
  property 6 1006 "ratio" .f64]

def reading : Entity := entity 2 2000 "Reading" ⟨13, 2013⟩ [
  property 1 2001 "id" .u64,
  (property 2 2002 "sensor" .text).withStoreName "sensorName",
  property 3 2003 "level" .i8,
  property 4 2004 "delta" .i16,
  property 5 2005 "channel" .u16,
  property 6 2006 "taken_at" .i64,
  property 7 2007 "sequence" .u32,
  property 8 2008 "quality" .u8,
  property 9 2009 "drift" .isize,
  property 10 2010 "index" .usize,
  property 11 2011 "unit" .char,
  property 12 2012 "value" .f32,
  property 13 2013 "raw" .u64]

def mixed : Entity := entity 7 7000 "Mixed" ⟨30, 7030⟩ [
  property 9 7009 "count" .u32,
  (property 3 7003 "r#type" .text).withStoreName "type",
  (property 12 7012 "key" .u64).withFlags ⟨129⟩,
  property 1 7001 "flag" .bool,
  property 2 7002 "tiny" .i8,
  property 4 7004 "small" .i16,
  property 5 7005 "wide" .i64,
  property 6 7006 "byte" .u8,
  property 7 7007 "word" .u16,
  property 8 7008 "off" .isize,
  property 10 7010 "idx" .usize,
  property 11 7011 "letter" .char,
  property 13 7013 "single" .f32,
  property 14 7014 "double" .f64,
  property 15 7015 "blob" .bytes,
  (property 16 7016 "tail_text" .text).withFlags ⟨2048⟩,
  (property 30 7030 "big" .u64).withFlags ⟨1048584⟩,
  property 20 7020 "int" .i32]

def marker : Entity := entity 2 2222 "Marker" ⟨1, 2223⟩ [property 1 2223 "id" .u64]

def blobs : Entity := entity 40 4000 "Blobs" ⟨4, 4004⟩ [
  property 1 4001 "a" .bytes,
  property 2 4002 "b" .bytes,
  property 3 4003 "c" .text,
  property 4 4004 "id" .u64]

/-- Tasks and readings, with their identifiers in front. -/
def taskSchema : Schema := ⟨#[task, reading], ⟨2, 2000⟩⟩

/-- Records whose identifiers stand among or behind other fields, or alone. -/
def mixedSchema : Schema := ⟨#[mixed, marker, blobs], ⟨40, 4000⟩⟩

end RecordStore.Samples
