import Screener.Database.Encoding
import Screener.Database.Error

/-!
# Databases as pages

A database file consists of pages of one size, numbered from one.  The first page starts with a
header that tells the size of the pages, how many there are and which of them are free.  The free
pages are listed in trunks: pages that hold the numbers of further free pages and the number of the
next trunk.
-/

namespace Screener.Database

/-- A database file. -/
structure Image where
  pageSize : Nat
  /-- The number of bytes at the end of each page that are not used. -/
  reserved : Nat
  encoding : Encoding
  pages : Array Bytes
  /-- The numbers of the free pages. -/
  free : List Nat

namespace Image

/-! ## The header -/

/-- The number of bytes in the header. -/
def headerSize : Nat := 100

/-- What every database starts with. -/
def magic : Bytes := "SQLite format 3".toUTF8.data.toList ++ [0]

/-- What the header says about how pages are filled; there is no other choice. -/
def fillFractions : Bytes := [64, 32, 32]

/-- A number in the header. -/
def headerNumber (header : Bytes) (place width : Nat) : Nat :=
  unsigned ((header.drop place).take width)

/-- Puts bytes in the place of others. -/
def patch (target : Bytes) (place : Nat) (bytes : Bytes) : Bytes :=
  target.take place ++ bytes ++ target.drop (place + bytes.length)

/-- So many bytes, with zeros after those that are there. -/
def padded (size : Nat) (bytes : Bytes) : Bytes :=
  bytes.take size ++ List.replicate (size - bytes.length) 0

/-- The sizes that pages can have. -/
def pageSizes : List Nat := [512, 1024, 2048, 4096, 8192, 16384, 32768, 65536]

/-- The size of the pages in a new database. -/
def standardPageSize : Nat := 4096

/-- The least number of bytes that a page must have for its content. -/
def leastUsable : Nat := 480

/-- The latest version of the format. -/
def latestFormat : Nat := 4

/-- The header of a new database. -/
def newHeader : Bytes :=
  magic ++ bytesOf 2 standardPageSize ++ [1, 1, 0] ++ fillFractions ++ List.replicate 20 0 ++
    bytesOf 4 latestFormat ++ List.replicate 8 0 ++ bytesOf 4 1 ++ List.replicate 40 0

/-! ## Pages -/

/-- The number of bytes in a page for its content. -/
def usable (image : Image) : Nat := image.pageSize - image.reserved

/-- A page. -/
def page? (image : Image) (number : Nat) : Option Bytes :=
  if number = 0 then none else image.pages[number - 1]?

/-- The header. -/
def header (image : Image) : Bytes := ((image.page? 1).getD []).take headerSize

/-- Puts a page in the place of one that is there. -/
def put (image : Image) (number : Nat) (page : Bytes) : Image :=
  { image with pages := image.pages.setIfInBounds (number - 1) (padded image.pageSize page) }

/-- Changes the header. -/
def patchHeader (image : Image) (place : Nat) (bytes : Bytes) : Image :=
  image.put 1 (patch ((image.page? 1).getD []) place bytes)

/-- Takes a free page, or adds one at the end. -/
def allocate (image : Image) : Nat × Image :=
  match image.free with
  | number :: rest => (number, { image with free := rest })
  | [] => (image.pages.size + 1, { image with pages := image.pages.push [] })

/-! ## Reading -/

/-- The free pages along the trunks, of which there are at most so many. -/
def freePages (pages : Array Bytes) : (count : Nat) → (trunk : Nat) → List Nat
  | 0, _ => []
  | count + 1, trunk =>
    if trunk = 0 then []
    else match pages[trunk - 1]? with
      | none => []
      | some page =>
        let listed := min (headerNumber page 4 4) (page.length / 4 - 2)
        let leaves := (List.range listed).map fun i => headerNumber page (8 + 4 * i) 4
        trunk :: leaves ++ freePages pages count (headerNumber page 0 4)

/-- The pages of the map that tells where pages are referred to.  A database need not have one, and
loses it with the next change. -/
def mapPages (header : Bytes) (usable count : Nat) : List Nat :=
  if headerNumber header 52 4 = 0 then []
  else (List.range' 2 (count - 1)).filter fun number => (number - 2) % (usable / 5 + 1) = 0

/-- A database without tables. -/
def new : Image where
  pageSize := standardPageSize
  reserved := 0
  encoding := .utf8
  pages := #[padded standardPageSize (newHeader ++ [13, 0, 0, 0, 0] ++ bytesOf 2 standardPageSize)]
  free := []

/-- The number of pages: the header knows it, unless the file was last changed by a program that
does not keep it there. -/
def pageCount (header : Bytes) (inFile : Nat) : Nat :=
  let stated := headerNumber header 28 4
  if stated = 0 ∨ headerNumber header 24 4 ≠ headerNumber header 92 4 then inFile else stated

/-- The database in a file.  A file of one byte counts as empty, and an empty file is a database
without tables. -/
def read (content : ByteArray) : Except DatabaseError Image := do
  if content.size ≤ 1 then return new
  let header := padded headerSize (content.extract 0 headerSize).data.toList
  if header.take 16 ≠ magic then throw .notDatabase
  if 2 < headerNumber header 19 1 then throw .notDatabase
  if (header.drop 21).take 3 ≠ fillFractions then throw .notDatabase
  let stated := headerNumber header 16 2
  let pageSize := if stated = 1 then 65536 else stated
  if pageSize ∉ pageSizes then throw .notDatabase
  let inFile := (content.size + pageSize - 1) / pageSize
  let count := pageCount header inFile
  if inFile < count then throw .malformed
  let reserved := headerNumber header 20 1
  if pageSize - reserved < leastUsable then throw .notDatabase
  if latestFormat < headerNumber header 47 1 then throw .unsupported
  let pages := (List.range count).map fun i =>
    padded pageSize (content.extract (i * pageSize) ((i + 1) * pageSize)).data.toList
  let pages := pages.toArray
  let free := freePages pages count (headerNumber header 32 4) ++
    mapPages header (pageSize - reserved) count
  return { pageSize, reserved, encoding := .ofCode (headerNumber header 56 4), pages,
           free := free.filter fun number => 2 ≤ number ∧ number ≤ count }

/-- Whether the header forbids changes. -/
def isReadOnly (image : Image) : Bool := 2 < headerNumber image.header 18 1

/-! ## Writing -/

/-- Lists the free pages in trunks, of which the last made is the first. -/
def writeTrunks (image : Image) (next : Nat) : (count : Nat) → List Nat → Image × Nat
  | 0, _ => (image, next)
  | _ + 1, [] => (image, next)
  | count + 1, trunk :: rest =>
    let capacity := image.usable / 4 - 8
    let leaves := rest.take capacity
    let page := bytesOf 4 next ++ bytesOf 4 leaves.length ++ leaves.flatMap (bytesOf 4)
    writeTrunks (image.put trunk page) trunk count (rest.drop capacity)

/-- The file of a database, with a header that counts one more change. -/
def bytes (image : Image) : ByteArray :=
  let (image, trunk) := image.writeTrunks 0 image.free.length image.free
  let changes := bytesOf 4 (headerNumber image.header 24 4 + 1)
  let image := [(24, changes ++ bytesOf 4 image.pages.size ++ bytesOf 4 trunk ++
      bytesOf 4 image.free.length), (52, bytesOf 4 0), (64, bytesOf 4 0), (92, changes)].foldl
    (fun image (place, bytes) => image.patchHeader place bytes) image
  ⟨image.pages.flatMap fun page => (padded image.pageSize page).toArray⟩

end Image

end Screener.Database
