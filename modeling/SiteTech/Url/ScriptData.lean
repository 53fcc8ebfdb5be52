import SiteTech.Text.Packed

namespace SiteTech.Url

open Text (packedRows)

/-- Packed directions: the distance of a range from the end of the one before, the number of
characters after its first, and the direction. Characters that it does not name go to the right. -/
def directionText : String :=
  ("0-8-9 6-d-9 6-1-8 1-2-7 1-4-8 1-0-5 1-0-6 1-0-5 1-1-6 1-9-4 1-0-6 1-5-8 1b-5-8 1b-3-8 1-5-9 " ++
    "2-19-9 1-0-6 1-0-8 1-3-7 1-3-8 2-1-8 1-0-9 1-1-8 1-1-7 1-1-4 1-0-8 2-2-8 1-0-4 2-4-8 18-0-8 " ++
    "20-0-8 1c2-1-8 8-d-8 3-d-8 6-8-8 2-10-8 1-6f-a 5-1-8 9-0-8 6-1-8 2-0-8 6f-0-8 8d-6-a 101-0-8 " ++
    "3-1-8 1-0-7 1-0-1 1-2c-a 1-0-1 1-0-a 1-0-1 1-1-a 1-0-1 1-1-a 1-0-1 1-0-a 1-37-1 1-5-3 1-1-8 " ++
    "1-0-2 1-1-7 1-0-2 1-0-6 1-0-2 1-1-8 1-a-a 1-2f-2 1-14-a 1-9-3 1-0-7 1-1-3 1-2-2 1-0-a 1-64-2 " ++
    "1-6-a 1-0-3 1-0-8 1-5-a 1-1-2 1-1-a 1-0-8 1-3-a 1-1-2 1-9-4 1-16-2 1-0-a 1-1d-2 1-1a-a " ++
    "1-5a-2 1-a-a 1-e-2 1-2a-1 1-8-a 1-1-1 1-3-8 1-2-1 1-0-a 1-17-1 1-3-a 1-0-1 1-8-a 1-0-1 1-2-a " ++
    "1-0-1 1-4-a 1-2a-1 1-2-a 1-3-1 1-2f-2 1-1-3 1-5-2 1-7-a 1-29-2 1-17-a 1-0-3 1-1f-a 38-0-a " ++
    "2-0-a 5-7-a 5-0-a 4-6-a b-1-a 1e-0-a 3b-0-a 5-3-a 9-0-a 15-1-a f-1-7 8-0-7 3-0-a 3-1-a " ++
    "3a-0-a 5-1-a 5-1-a 3-2-a 4-0-a 1f-1-a 4-0-a c-1-a 3a-0-a 5-4-a 2-1-a 5-0-a 15-1-a e-0-7 " ++
    "9-5-a 2-0-a 3b-0-a 3-0-a 2-3-a 9-0-a 8-1-a c-1-a 1f-0-a 3e-0-a d-0-a 26-5-8 1-0-7 1-0-8 " ++
    "6-0-a 4-0-a 38-0-a 2-2-a 6-2-a 2-3-a 8-1-a c-1-a 15-6-8 3-0-a 3b-0-a 10-1-a 15-1-a 1d-1-a " ++
    "3a-1-a 5-3-a 9-0-a 15-1-a 1e-0-a 49-0-a 8-2-a 2-0-a 5b-0-a 3-6-a 5-0-7 8-7-a 63-0-a 3-8-a " ++
    "c-6-a 4a-1-a 1c-0-a 2-0-a 2-0-a 1-3-8 34-d-a 2-4-a 2-1-a 6-a-a 2-23-a a-0-a 67-3-a 2-5-a " ++
    "2-1-a 3-1-a 1a-1-a 5-2-a 11-3-a e-0-a 3-1-a 7-0-a 10-0-a 2c0-2-a 31-9-8 67-0-8 29b-1-8 " ++
    "76-2-a 1e-1-a 1f-1-a 1f-1-a 41-1-a 2-6-a 9-0-a 3-a-a 8-0-7 2-0-a 13-9-8 7-a-8 1-2-a 1-0-9 " ++
    "1-0-a 76-1-a 23-0-a 77-2-a 5-1-a a-0-a 7-2-a 5-0-8 4-1-8 99-21-8 18-1-a 3-0-a 3b-0-a 2-6-a " ++
    "2-0-a 2-0-a 3-7-a 7-9-a 3-0-a 31-1e-a 32-3-a 31-0-a 2-4-a 2-0-a 6-0-a 29-8-a d-1-a 21-3-a " ++
    "3-1-a 2-2-a 39-0-a 2-1-a 4-0-a 2-2-a 3b-7-a 3-1-a 99-2-a 2-c-a 2-6-a 5-0-a 7-0-a 4-1-a " ++
    "c7-3f-a 1be-0-8 2-2-8 c-2-8 e-2-8 e-2-8 e-1-8 d-2-9 2-0-1 1-17-8 8-0-6 1-4-7 1-e-8 1-0-6 " ++
    "1-19-8 2-5-9 5-5-9 1-0-4 4-5-4 1-1-5 1-2-8 2-9-4 1-1-5 1-2-8 12-2f-7 1-20-a 10-1-8 2-3-8 " ++
    "2-1-8 b-0-8 2-2-8 6-5-8 2-0-8 2-0-8 2-0-8 5-0-7 c-1-8 5-4-8 6-3-8 3-f-8 2a-2-8 5-81-8 1-0-5 " ++
    "1-0-7 1-121-8 46-19-8 2-90-8 1a-a-8 16-27-8 1-13-4 4f-1c1-8 2-152-8 101-273-8 3-1f-8 2-68-8 " ++
    "e6-5-8 5-2-a 8-6-8 80-0-a 61-1f-a 1-5d-8 23-19-8 2-58-8 d-d5-8 1b-b-8 6-3-8 4-18-8 a-3-a " ++
    "3-0-8 6-1-8 6-2-8 5a-1-a 1-1-8 4-0-8 5b-0-8 c5-23-8 3a-1-8 32-f-8 1d-2-8 33-e-8 d-3-8 a8-3-8 " ++
    "64-1-8 20-0-8 19c1-3f-8 5691-36-8 147-2-8 60-3-a 1-0-8 1-9-a 1-1-8 1f-1-a 51-1-a f-21-8 " ++
    "67-0-8 7a-0-a 4-0-a 5-0-a 1a-1-a 2-3-8 1-0-a c-1-7 3b-3-8 4d-1-a 1b-11-a e-0-a 27-7-a 1a-a-a " ++
    "2f-2-a 31-0-a 3-3-a 3-1-a 28-0-a 44-5-a 3-1-a 3-1-a d-0-a 9-0-a 30-0-a 34-0-a 2-2-a 3-1-a " ++
    "6-1-a 2-0-a 2b-1-a 9-0-a 74-1-8 7a-0-a 3-0-a 5-0-a 4f30-0-1 1-0-a 1-9-1 1-0-5 1-25-1 1-1ed-2 " ++
    "1-11-8 1-7e-2 1-0-8 1-1f-9 1-c-2 1-2-8 1-f-a 1-9-8 7-f-a 1-1f-8 1-0-6 1-0-8 1-0-6 2-0-8 " ++
    "1-0-6 1-8-8 1-0-7 1-1-8 1-1-5 1-2-8 2-0-8 1-1-7 1-0-8 5-8e-2 1-0-9 2-1-8 1-2-7 1-4-8 1-0-5 " ++
    "1-0-6 1-0-5 1-1-6 1-9-4 1-0-6 1-5-8 1b-5-8 1b-a-8 7b-1-7 1-2-8 1-1-7 2-6-8 2-8-9 1-4-8 1-1-9 " ++
    "102-0-8 3f-4c-8 4-c-8 4-0-8 5d-0-a e3-0-a 1-1a-4 7b-4-a 486-11e-1 1-0-8 1-e0-1 1-2-a 1-0-1 " ++
    "1-1-a 1-4-1 1-3-a 1-27-1 1-2-a 1-3-1 1-0-a 1-a4-1 1-1-a 1-51-1 1-6-8 1-1bf-1 1-23-2 1-3-a " ++
    "1-7-2 1-9-3 1-5-2 1-11f-1 1-1e-3 1-2b-1 1-1-a 1-12-1 1-3c-2 1-2-a 1-2f-1 1-15-2 1-a-a 1-1e-2 " ++
    "1-11-1 1-3-a 1-79-1 2-0-a 37-e-a c-13-8 b-0-a 3-1-a b-2-a 32-3-a 3-1-a 8-0-a 3e-2-a 25-4-a " ++
    "2-7-a 3f-0-a d-1-a 35-8-a b-3-a 3-0-a 60-2-a 3-0-a 2-1-a 7-0-a 3-0-a 9e-0-a 4-7-a 16-1-a " ++
    "3a-1-a 4-0-a 26-6-a 4-4-a c4-7-a 3-2-a 2-0-a 18-0-a 55-5-a 2-0-a 5-1-a 2-1-a ef-3-a 7-1-a " ++
    "2-1-a 1c-1-a 56-7-a 3-0-a 2-1-a 20-c-8 3f-0-a 2-0-a 3-5-a 2-0-a 66-2-a 3-3-a 2-4-a 104-8-a " ++
    "2-1-a 101-1-a 2-0-a 5-0-a 91-3-a 3-1-a 5-0-a 21-5-a 3-1-a 29-5-a 3-3-a 9-0-a a-5-a 3-2-a " ++
    "2f-c-a 2-1-a 197-6-a 2-5-a 55-15-a 3-6-a 2-1-a 2-1-a 7b-5-a 4-0-a 2-1-a 2-6-a 2-0-a 49-1-a " ++
    "4-0-a 2-0-a 15c-1-a c-1-a 35-4-a 6-0-a 2-0-a 93-7-8 1-3-7 1-10-8 144f-0-a 7-e-a 369b-4-a " ++
    "3c-6-a 419-0-a 40-3-a 50-0-8 2-0-a 4cb9-1-a 2-3-9 125d-2d-a 3-16-a 221-2-a a-7-9 1-7-a 3-6-a " ++
    "1f-3-a 3c-1-8 16-41-8 1-2-a 1-0-8 bb-56-8 385-0-8 3a-0-8 3a-0-8 3a-0-8 3a-0-8 b-31-4 " ++
    "201-36-a 5-31-a 9-0-a f-0-a 17-4-a 2-e-a 551-6-a 2-10-a 3-6-a 2-1-a 2-4-a 65-0-a a1-6-a " ++
    "178-0-a 3e-3-a 10-0-7 1ed-3-a 311-cf-1 1-6-a 1-6c-1 1-6-a 1-324-1 1-4f-2 1-3f-1 1-4f-2 " ++
    "1-af-1 1-ef-2 1-1-8 1-d-2 1-ff-1 1-2b-8 5-63-8 d-e-8 3-e-8 2-e-8 2-24-8 b-a-4 1-4-8 20-0-8 " ++
    "3b-5-8 3e-0-8 b3-5-8 9b-3d7-8 5-10-8 4-c-8 4-76-8 5-5e-8 7-b-8 5-0-8 10-b-8 5-37-8 9-9-8 " ++
    "7-27-8 9-1d-8 3-1-8 4f-153-8 d-d-8 3-c-8 4-8-8 8-2d-8 2-6-8 9-d-8 5-8-8 8-8-8 8-92-8 2-36-8 " ++
    "26-9-4 405-1-9 ffff-1-9 ffff-1-9 ffff-1-9 ffff-1-9 ffff-1-9 ffff-1-9 ffff-1-9 ffff-1-9 " ++
    "ffff-1-9 ffff-1-9 ffff-1-9 ffff-101-9 1-ef-a 1-e0f-9 efff-1-9 ffff-1-9 ffff-1-9")

/-- Packed joining types: the distance of a range from the end of the one before, the number of
characters after its first, and the type. -/
def joiningText : String :=
  ("ad-0-4 253-6f-4 114-6-4 108-2c-4 2-0-4 2-1-4 2-1-4 2-0-4 49-a-4 2-0-4 4-0-1 2-3-3 1-0-1 " ++
    "1-0-3 1-0-1 1-0-3 1-4-1 1-3-3 1-c-1 2-6-1 1-0-3 1-1-1 1-14-4 f-1-1 1-0-4 1-2-3 2-2-3 1-f-1 " ++
    "1-11-3 1-25-1 1-0-3 1-1-1 1-8-3 1-0-1 1-0-3 1-0-1 1-0-3 1-1-1 1-1-3 2-0-3 1-6-4 3-5-4 3-1-4 " ++
    "2-3-4 1-1-3 b-2-1 3-0-1 10-0-4 1-0-3 1-0-4 1-2-1 1-4-3 1-3-1 1-0-3 1-8-1 1-0-3 1-0-1 1-0-3 " ++
    "1-0-1 1-0-3 1-1-1 1-0-3 1-1a-4 3-0-3 1-a-1 1-2-3 1-e-1 1-1-3 1-3-1 1-0-3 1-0-1 1-1-3 1-2-1 " ++
    "1-1-3 1-5-1 27-a-4 1a-20-1 1-8-4 a-0-4 19-3-4 2-8-4 2-2-4 2-4-4 13-0-3 1-4-1 1-1-3 1-0-1 " ++
    "1-0-3 1-9-1 1-0-3 1-0-1 1-2-3 1-2-4 5-0-1 2-3-1 2-0-3 1-0-1 1-1-3 6-12-3 4-0-1 3-4-1 1-0-3 " ++
    "a-7-4 1-9-1 1-2-3 2-0-3 1-1-1 1-1-3 1-5-1 1-0-3 1-e-1 2-17-4 2-1f-4 38-0-4 2-0-4 5-7-4 5-0-4 " ++
    "4-6-4 b-1-4 1e-0-4 3b-0-4 5-3-4 9-0-4 15-1-4 1b-0-4 3-1-4 3a-0-4 5-1-4 5-1-4 3-2-4 4-0-4 " ++
    "1f-1-4 4-0-4 c-1-4 3a-0-4 5-4-4 2-1-4 5-0-4 15-1-4 17-5-4 2-0-4 3b-0-4 3-0-4 2-3-4 9-0-4 " ++
    "8-1-4 c-1-4 1f-0-4 3e-0-4 d-0-4 33-0-4 4-0-4 38-0-4 2-2-4 6-2-4 2-3-4 8-1-4 c-1-4 1e-0-4 " ++
    "3b-0-4 3-0-4 7-0-4 6-1-4 15-1-4 1d-1-4 3a-1-4 5-3-4 9-0-4 15-1-4 1e-0-4 49-0-4 8-2-4 2-0-4 " ++
    "5b-0-4 3-6-4 d-7-4 63-0-4 3-8-4 c-6-4 4a-1-4 1c-0-4 2-0-4 2-0-4 38-d-4 2-4-4 2-1-4 6-a-4 " ++
    "2-23-4 a-0-4 67-3-4 2-5-4 2-1-4 3-1-4 1a-1-4 5-2-4 11-3-4 e-0-4 3-1-4 7-0-4 10-0-4 2c0-2-4 " ++
    "3b3-2-4 1e-1-4 1f-1-4 1f-1-4 41-1-4 2-6-4 9-0-4 3-a-4 a-0-4 2a-0-1 4-2-4 2-0-4 11-58-1 d-1-4 " ++
    "1-21-1 1-0-4 1-0-1 76-2-4 5-1-4 a-0-4 7-2-4 dc-1-4 3-0-4 3b-0-4 2-6-4 2-0-4 2-0-4 3-7-4 " ++
    "7-9-4 3-0-4 31-1e-4 32-3-4 31-0-4 2-4-4 2-0-4 6-0-4 29-8-4 d-1-4 21-3-4 3-1-4 2-2-4 39-0-4 " ++
    "2-1-4 4-0-4 2-2-4 3b-7-4 3-1-4 99-2-4 2-c-4 2-6-4 5-0-4 7-0-4 4-1-4 c7-3f-4 20c-0-4 3-1-4 " ++
    "1b-4-4 32-4-4 6-5-4 61-20-4 bff-2-4 8e-0-4 61-1f-4 22b-3-4 6c-1-4 75d5-3-4 2-9-4 21-1-4 " ++
    "51-1-4 111-0-4 4-0-4 5-0-4 1a-1-4 6-0-4 14-31-1 1-0-2 52-1-4 1b-11-4 e-0-4 27-7-4 1a-a-4 " ++
    "2f-2-4 31-0-4 3-3-4 3-1-4 28-0-4 44-5-4 3-1-4 3-1-4 d-0-4 9-0-4 30-0-4 34-0-4 2-2-4 3-1-4 " ++
    "6-1-4 2-0-4 2b-1-4 9-0-4 ef-0-4 3-0-4 5-0-4 4f31-0-4 2e2-f-4 11-f-4 d0-0-4 fa-2-4 202-0-4 " ++
    "e3-0-4 96-4-4 687-2-4 2-1-4 6-3-4 29-2-4 5-0-4 81-4-1 1-0-3 2-0-3 2-1-3 3-0-2 1-4-3 1-3-1 " ++
    "1-0-2 1-4-1 1-0-3 1-2-1 1-0-3 3-0-3 1-1-4 5-3-1 1-0-3 91-0-1 1-0-3 1-0-1 1-2-3 1-2-1 1-0-3 " ++
    "1-1-1 1-0-3 1-0-1 1-1-3 1-0-1 1-0-3 18-3-3 1-1-1 152-0-2 1-20-1 1-0-3 1-0-1 1-3-4 184-1-4 " ++
    "51-2-4 31-2-1 1-0-3 1-10-1 2-a-4 1-2-1 1-0-3 1c-3-1 1-1-3 1-b-1 1-3-4 2b-0-1 2-1-1 1-2-3 " ++
    "2-0-1 1-1-3 1-1-1 1-0-3 1-1-1 2-0-1 1-1-3 1-0-1 5-0-3 1-0-1 1-0-2 36-0-4 37-e-4 2a-0-4 3-1-4 " ++
    "b-2-4 32-3-4 3-1-4 8-0-4 3e-2-4 25-4-4 2-7-4 3f-0-4 d-1-4 35-8-4 b-3-4 3-0-4 60-2-4 3-0-4 " ++
    "2-1-4 7-0-4 3-0-4 9e-0-4 4-7-4 16-1-4 3a-1-4 4-0-4 26-6-4 4-4-4 c4-7-4 3-2-4 2-0-4 18-0-4 " ++
    "55-5-4 2-0-4 5-1-4 2-1-4 ef-3-4 7-1-4 2-1-4 1c-1-4 56-7-4 3-0-4 2-1-4 6b-0-4 2-0-4 3-5-4 " ++
    "2-0-4 66-2-4 3-3-4 2-4-4 104-8-4 2-1-4 101-1-4 2-0-4 5-0-4 91-3-4 3-1-4 5-0-4 21-9-4 29-5-4 " ++
    "3-3-4 9-0-4 a-5-4 3-2-4 2f-c-4 2-1-4 197-6-4 2-5-4 2-0-4 53-15-4 3-6-4 2-1-4 2-1-4 7b-5-4 " ++
    "4-0-4 2-1-4 2-6-4 2-0-4 49-1-4 4-0-4 2-0-4 15c-1-4 c-1-4 35-4-4 6-0-4 2-0-4 14ee-10-4 7-e-4 " ++
    "369b-4-4 3c-6-4 419-0-4 40-3-4 52-0-4 4cb9-1-4 2-3-4 125d-2d-4 3-16-4 221-2-4 a-f-4 3-6-4 " ++
    "1f-3-4 95-2-4 7bc-36-4 5-31-4 9-0-4 f-0-4 17-4-4 2-e-4 551-6-4 2-10-4 3-6-4 2-1-4 2-4-4 " ++
    "65-0-4 a1-6-4 178-0-4 3e-3-4 1fd-3-4 3e1-6-4 2a-43-1 1-7-4 c16b6-0-4 1f-5f-4 81-ef-4")

/-- Ranges with a number. -/
def numberedOf (last : Nat) : List (List Nat) → List (Nat × Nat × Nat)
  | [] => []
  | row :: rest =>
    let first := last + row.headD 0
    let stop := first + row.getD 1 0
    (first, stop, row.getD 2 0) :: numberedOf stop rest

/-- The ranges of directions. -/
def directionRanges : List (Nat × Nat × Nat) := numberedOf 0 (packedRows directionText)

/-- The ranges of joining types. -/
def joiningRanges : List (Nat × Nat × Nat) := numberedOf 0 (packedRows joiningText)

/-- How a character is written. -/
inductive Direction where
  | left
  | right
  | arabic
  | arabicNumber
  | number
  | numberSeparator
  | commonSeparator
  | numberTerminator
  | neutral
  | boundary
  | mark
deriving DecidableEq, Repr

/-- The direction of a number in the table. -/
def Direction.numbered (n : Nat) : Direction :=
  match n with
  | 1 => .right
  | 2 => .arabic
  | 3 => .arabicNumber
  | 4 => .number
  | 5 => .numberSeparator
  | 6 => .commonSeparator
  | 7 => .numberTerminator
  | 8 => .neutral
  | 9 => .boundary
  | 10 => .mark
  | _ => .left

/-- How a character of a cursive script joins its neighbours. -/
inductive Joining where
  | none
  | dual
  | leftOnly
  | rightOnly
  | transparent
deriving DecidableEq, Repr

/-- The joining type of a number in the table. -/
def Joining.numbered (n : Nat) : Joining :=
  match n with
  | 1 => .dual
  | 2 => .leftOnly
  | 3 => .rightOnly
  | 4 => .transparent
  | _ => .none

/-- The number of a code point in a list of ranges; zero outside them. -/
def numberIn (ranges : List (Nat × Nat × Nat)) (n : Nat) : Nat :=
  match ranges.find? fun r => decide (r.1 ≤ n ∧ n ≤ r.2.1) with
  | some r => r.2.2
  | none => 0

/-- The direction of a character. -/
def direction (c : Char) : Direction := Direction.numbered (numberIn directionRanges c.toNat)

/-- The joining type of a character. -/
def joining (c : Char) : Joining := Joining.numbered (numberIn joiningRanges c.toNat)

end SiteTech.Url
