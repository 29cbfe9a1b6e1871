import NowNext.Unicode.Ranges

set_option autoImplicit false

namespace NowNext.Unicode

def graphemeBreaks : List NamedSet := [
  ⟨["cr"],
    ["D"]⟩,
  ⟨["cn", "control"],
    ["0-9 1-1 1-11 5F-20 D 56E 11F1 7FC 2-1 18-6 31-F DE8F F0-B 3434-F 8860-3 14CF-7 C2E85-1F",
     "60-7F F0-E0F"]⟩,
  ⟨["ex", "extend"],
    ["300-6F 113-6 107-2C 1 1-1 1-1 1 48-A 30-14 10 65-6 2-5 2-1 1-3 23 1E-1A 5B-A 3A-8 9 18-3",
     "1-8 1-2 1-4 2B-2 3B-8 2A-17 1-1F 37 1 4-7 4 3-6 A-1 1D 3A 1 2-3 8 9 A-1 1A 2-1 39 4-1 4-1",
     "2-2 3 1E-1 3 B-1 39 4-4 1-1 4 14-1 16-5 1 3A 1-1 1-3 8 7-2 A-1 1E 3B 1 C 9 28 3 37 1-2 5-2",
     "1-3 7-1 B-1 1D 3A 2-1 1 3-2 1-3 7-1 B-1 1C-1 39-1 1 2-3 8 9 A-1 1D 48 4 2-2 1 8 51 2-6 C-7",
     "62 2-8 B-6 49-1 1B 1 1 37-D 1-4 1-1 5-A 1-23 9 66-3 1-5 1-1 2-1 19-1 4-2 10-3 D 2-1 6 F",
     "2BF-2 3B2-3 1C-2 1D-1 1E-1 40-1 1-6 8 2-A 9 2D-2 1 75-1 22 76-2 4-1 9 6-2 DB-1 2 3A 1-6 1 1",
     "2-7 6-9 2 30-1E 31-3 30-9 4-2 26-8 C-1 20-3 2-5 38 1-1 3 1-4 38-7 2-1 98-2 1-C 1-6 4 6 3-1",
     "C6-3F 20C C3-20 BFE-2 8D 60-1F 22A-5 69-1 75D4-3 1-9 20-1 50-1 110 3 4 19-1 5 97-1 1A-11 D",
     "26-7 19-A 1 2C-2 30 2-3 2-1 2 24 43-5 2-1 2-1 C 8 2F 33 1-2 2-1 5-1 1 2A-1 8 EE 2 4 4F30",
     "2E1-F 10-F 16E-1 25D E2 95-4 686-2 1-1 5-3 28-2 4 A5-1 23D-3 41-4 13D-1 4F-3 46-A 31-3 7B",
     "36-E 29 2-1 A-2 31-3 2-1 7 3D-2 24-4 1-7 3E C-1 34-8 1 8-3 2 5F-2 2-3 6 2 9D 3-7 15-1 39-1",
     "1 1 C 9 E-6 3-4 43 2-5 1 2 1-2 4-2 1 E-1 55-7 2-2 1 17 51 2-5 1 2 1-1 1-1 EB 2-3 6-1 1-1",
     "1B-1 55-7 2 1-1 6A 1 2-7 65 1 2-3 1-4 103-8 1-1 F5 A-3 4 90-3 2-1 4 20-9 28-5 2-3 8 9-5 2-2",
     "2E-C 1-1 196-6 1-5 1 52-15 2-6 1-1 1-1 7A-5 3 1-1 1-6 1 48-1 3 1 15B-1 B-1 34-4 5-2 17 14E5",
     "6-E 2CC8-B 3-2 9C0-4 3B-6 418 3F-3 51 B-1 4CAB-1 1261-2D 2-16 21E-4 3-5 8-7 2-6 1E-3 94-2",
     "7BB-36 4-31 8 E 16-4 1-E 550-6 1-10 2-6 1-1 1-4 64 A0-6 177 3D-3 1FC-3 FE-1 2E0-6 6D-6",
     "AB0-4 C0C20-5F 80-EF"]⟩,
  ⟨["l"],
    ["1100-5F 9800-1C"]⟩,
  ⟨["lf"],
    ["A"]⟩,
  ⟨["lv"],
    ["AC00 1B 1B 1B 1B 1B 1B 1B 1B 1B 1B 1B 1B 1B 1B 1B 1B 1B 1B 1B 1B 1B 1B 1B 1B 1B 1B 1B 1B 1B",
     "1B 1B 1B 1B 1B 1B 1B 1B 1B 1B 1B 1B 1B 1B 1B 1B 1B 1B 1B 1B 1B 1B 1B 1B 1B 1B 1B 1B 1B 1B",
     "1B 1B 1B 1B 1B 1B 1B 1B 1B 1B 1B 1B 1B 1B 1B 1B 1B 1B 1B 1B 1B 1B 1B 1B 1B 1B 1B 1B 1B 1B",
     "1B 1B 1B 1B 1B 1B 1B 1B 1B 1B 1B 1B 1B 1B 1B 1B 1B 1B 1B 1B 1B 1B 1B 1B 1B 1B 1B 1B 1B 1B",
     "1B 1B 1B 1B 1B 1B 1B 1B 1B 1B 1B 1B 1B 1B 1B 1B 1B 1B 1B 1B 1B 1B 1B 1B 1B 1B 1B 1B 1B 1B",
     "1B 1B 1B 1B 1B 1B 1B 1B 1B 1B 1B 1B 1B 1B 1B 1B 1B 1B 1B 1B 1B 1B 1B 1B 1B 1B 1B 1B 1B 1B",
     "1B 1B 1B 1B 1B 1B 1B 1B 1B 1B 1B 1B 1B 1B 1B 1B 1B 1B 1B 1B 1B 1B 1B 1B 1B 1B 1B 1B 1B 1B",
     "1B 1B 1B 1B 1B 1B 1B 1B 1B 1B 1B 1B 1B 1B 1B 1B 1B 1B 1B 1B 1B 1B 1B 1B 1B 1B 1B 1B 1B 1B",
     "1B 1B 1B 1B 1B 1B 1B 1B 1B 1B 1B 1B 1B 1B 1B 1B 1B 1B 1B 1B 1B 1B 1B 1B 1B 1B 1B 1B 1B 1B",
     "1B 1B 1B 1B 1B 1B 1B 1B 1B 1B 1B 1B 1B 1B 1B 1B 1B 1B 1B 1B 1B 1B 1B 1B 1B 1B 1B 1B 1B 1B",
     "1B 1B 1B 1B 1B 1B 1B 1B 1B 1B 1B 1B 1B 1B 1B 1B 1B 1B 1B 1B 1B 1B 1B 1B 1B 1B 1B 1B 1B 1B",
     "1B 1B 1B 1B 1B 1B 1B 1B 1B 1B 1B 1B 1B 1B 1B 1B 1B 1B 1B 1B 1B 1B 1B 1B 1B 1B 1B 1B 1B 1B",
     "1B 1B 1B 1B 1B 1B 1B 1B 1B 1B 1B 1B 1B 1B 1B 1B 1B 1B 1B 1B 1B 1B 1B 1B 1B 1B 1B 1B 1B 1B",
     "1B 1B 1B 1B 1B 1B 1B 1B 1B"]⟩,
  ⟨["lvt"],
    ["AC01-1A 1-1A 1-1A 1-1A 1-1A 1-1A 1-1A 1-1A 1-1A 1-1A 1-1A 1-1A 1-1A 1-1A 1-1A 1-1A 1-1A",
     "1-1A 1-1A 1-1A 1-1A 1-1A 1-1A 1-1A 1-1A 1-1A 1-1A 1-1A 1-1A 1-1A 1-1A 1-1A 1-1A 1-1A 1-1A",
     "1-1A 1-1A 1-1A 1-1A 1-1A 1-1A 1-1A 1-1A 1-1A 1-1A 1-1A 1-1A 1-1A 1-1A 1-1A 1-1A 1-1A 1-1A",
     "1-1A 1-1A 1-1A 1-1A 1-1A 1-1A 1-1A 1-1A 1-1A 1-1A 1-1A 1-1A 1-1A 1-1A 1-1A 1-1A 1-1A 1-1A",
     "1-1A 1-1A 1-1A 1-1A 1-1A 1-1A 1-1A 1-1A 1-1A 1-1A 1-1A 1-1A 1-1A 1-1A 1-1A 1-1A 1-1A 1-1A",
     "1-1A 1-1A 1-1A 1-1A 1-1A 1-1A 1-1A 1-1A 1-1A 1-1A 1-1A 1-1A 1-1A 1-1A 1-1A 1-1A 1-1A 1-1A",
     "1-1A 1-1A 1-1A 1-1A 1-1A 1-1A 1-1A 1-1A 1-1A 1-1A 1-1A 1-1A 1-1A 1-1A 1-1A 1-1A 1-1A 1-1A",
     "1-1A 1-1A 1-1A 1-1A 1-1A 1-1A 1-1A 1-1A 1-1A 1-1A 1-1A 1-1A 1-1A 1-1A 1-1A 1-1A 1-1A 1-1A",
     "1-1A 1-1A 1-1A 1-1A 1-1A 1-1A 1-1A 1-1A 1-1A 1-1A 1-1A 1-1A 1-1A 1-1A 1-1A 1-1A 1-1A 1-1A",
     "1-1A 1-1A 1-1A 1-1A 1-1A 1-1A 1-1A 1-1A 1-1A 1-1A 1-1A 1-1A 1-1A 1-1A 1-1A 1-1A 1-1A 1-1A",
     "1-1A 1-1A 1-1A 1-1A 1-1A 1-1A 1-1A 1-1A 1-1A 1-1A 1-1A 1-1A 1-1A 1-1A 1-1A 1-1A 1-1A 1-1A",
     "1-1A 1-1A 1-1A 1-1A 1-1A 1-1A 1-1A 1-1A 1-1A 1-1A 1-1A 1-1A 1-1A 1-1A 1-1A 1-1A 1-1A 1-1A",
     "1-1A 1-1A 1-1A 1-1A 1-1A 1-1A 1-1A 1-1A 1-1A 1-1A 1-1A 1-1A 1-1A 1-1A 1-1A 1-1A 1-1A 1-1A",
     "1-1A 1-1A 1-1A 1-1A 1-1A 1-1A 1-1A 1-1A 1-1A 1-1A 1-1A 1-1A 1-1A 1-1A 1-1A 1-1A 1-1A 1-1A",
     "1-1A 1-1A 1-1A 1-1A 1-1A 1-1A 1-1A 1-1A 1-1A 1-1A 1-1A 1-1A 1-1A 1-1A 1-1A 1-1A 1-1A 1-1A",
     "1-1A 1-1A 1-1A 1-1A 1-1A 1-1A 1-1A 1-1A 1-1A 1-1A 1-1A 1-1A 1-1A 1-1A 1-1A 1-1A 1-1A 1-1A",
     "1-1A 1-1A 1-1A 1-1A 1-1A 1-1A 1-1A 1-1A 1-1A 1-1A 1-1A 1-1A 1-1A 1-1A 1-1A 1-1A 1-1A 1-1A",
     "1-1A 1-1A 1-1A 1-1A 1-1A 1-1A 1-1A 1-1A 1-1A 1-1A 1-1A 1-1A 1-1A 1-1A 1-1A 1-1A 1-1A 1-1A",
     "1-1A 1-1A 1-1A 1-1A 1-1A 1-1A 1-1A 1-1A 1-1A 1-1A 1-1A 1-1A 1-1A 1-1A 1-1A 1-1A 1-1A 1-1A",
     "1-1A 1-1A 1-1A 1-1A 1-1A 1-1A 1-1A 1-1A 1-1A 1-1A 1-1A 1-1A 1-1A 1-1A 1-1A 1-1A 1-1A 1-1A",
     "1-1A 1-1A 1-1A 1-1A 1-1A 1-1A 1-1A 1-1A 1-1A 1-1A 1-1A 1-1A 1-1A 1-1A 1-1A 1-1A 1-1A 1-1A",
     "1-1A 1-1A 1-1A 1-1A 1-1A 1-1A 1-1A 1-1A 1-1A 1-1A 1-1A 1-1A 1-1A 1-1A 1-1A 1-1A 1-1A 1-1A",
     "1-1A 1-1A 1-1A 1-1A"]⟩,
  ⟨["pp", "prepend"],
    ["600-5 D7 31 180-1 50 46B 1036E F F4-1 20D 56D 1 F8 49-5 2BC 1BB"]⟩,
  ⟨["ri", "regionalindicator"],
    ["1F1E6-19"]⟩,
  ⟨["sm", "spacingmark"],
    ["903 37 2-2 8-3 1-1 32-1 3B-1 6-1 2-1 36 3A-2 42 3A-2 8 1-1 35-1 3C 6-1 2-1 72 1-1 3-2 1-2",
     "34-2 3D-3 3D-1 3A 2 1-1 2E E-1 3B-1 5-2 1-2 35-1 4C-1 6-6 13-1 3F 7F 8A-1 3F B1 9-1 19-1 2C",
     "731 7-7 1-1 15A-3 2-2 4-1 1-5 E0-1 3A 1 15-5 91 39-3 40 1E 4-1 3F 2-2 1 35-7 8-1 AB 15",
     "8B2B-1 2 58-1 32-F 8E 30 30-1 4-1 2-1 6F-1 2-1 18 9D 2-1 5 ED-1 1-1 1-1 1 6413 1 7F 2D-2",
     "4-1 73 18-1 3B 30-2 9 E 5D-2 3-1 AC-2 1F-1 3B 1-3 2-1 2-1 15-1 55-1 F 1-1 67-2 8-1 3 6B-1 6",
     "1-1 1 2 EE-1 6-3 2 71-2 8-1 1 6D 1-1 6E 7 105-2 9 F8-4 1-1 7 1 8E-2 8-3 4 54 1D-1 3E 197 E",
     "6A 7 2 D5-4 4-1 1 15E-1 C 30-1 8-1 41EA-2 E24-36"]⟩,
  ⟨["t"],
    ["11A8-57 C5CB-30"]⟩,
  ⟨["v"],
    ["1160-47 C608-16 959C 3-3"]⟩,
  ⟨["zwj"],
    ["200D"]⟩]

def wordBreaks : List NamedSet := [
  ⟨["le", "aletter"],
    ["41-19 6-19 2F A 4 5-16 1-1E 1-1DF 6-21 70-4 1-1 2-3 1 6 1-2 1 1-13 1-52 1-8A 8-A5 1-25 2-3",
     "1 1-28 1 68 2C-2A 23-1 1-62 1 F-1 7-1 A-2 2 F-1 1-1D 1D-58 B 18-20 9-1 4 5-15 4 9 3 17-18",
     "7-A 5-17 1-5 11-29 3A-35 3 12 7-9 F-F 4-7 2-1 2-15 1-6 1 3-3 3 10 D-1 1-2 E-1 A 8-5 4-1",
     "2-15 1-6 1-1 1-1 1-1 1F-3 1 13-2 10-8 1-2 1-15 1-6 1-1 1-4 3 12 F-1 17 B-7 2-1 2-15 1-6 1-1",
     "1-4 3 1E-1 1-2 F 11 1-5 3-2 1-3 3-1 1 1-1 3-1 3-2 3-B 16 34-7 1-2 1-16 1-F 3 1A-2 2 2-1 1E",
     "4-7 1-2 1-16 1-9 1-4 3 1F-1 1-1 F-1 11-8 1-2 1-28 2 10 5-2 8-2 18-5 5-11 3-17 1-8 1 2-6 139",
     "3F-7 1-23 1B-4 113-25 1 5 2-2A 1-14C 1-3 2-6 1 1-3 2-28 1-3 2-20 1-3 2-6 1 1-3 2-E 1-38 1-3",
     "2-42 25-F 10-55 2-5 3-26B 2-10 1-19 5-4A 3-A 7-11 D-12 E-11 E-C 1-2 AF-58 7-4 2-21 1 5-45",
     "A-1E E1-16 EE-2E 11-7 36-1D D-1 A-2B 1A-23 29-2 A-23 2-A 5-2A 2-2 29-3 1-5 1-1 3 5-BF",
     "40-115 2-5 2-25 2-5 2-7 1 1 1 1-1E 2-34 1-6 1 3-2 1-6 3-3 2-5 4-C 5-2 1-6 74 D 10-C 65 4",
     "2-9 1 3-4 6 1 1 1-3 1-A 2-3 5-4 4 11-28 32D-33 716-E4 6-3 3-1 C-25 1 5 2-37 7 10-16 9-6 1-6",
     "1-6 1-6 1-6 1-6 1-6 1-6 50 1D5 35-1 C8-2A 1-5D 11-1F 6E40-48C 43-2D 2-10C 3-F A-1 14-2E",
     "10-1E 2-4F 18-C5 2-1 1 1-7 15-F 1-2 1-3 1-16 1D-33 E-31 3E-5 3 1-1 B-1B A-16 19-1C 7-2E 1C",
     "30-28 17-2 1-7 94-A 7-2 C-5 2-5 2-5 9-6 1-6 1-39 6-72 1D-2BA3 C-16 4-30 2304-6 C-4 38-61",
     "21-16A 12-3F 2-35 28-B 74-4 1-86 24-19 6-19 45-1E 3-5 2-5 2-5 2-2 23-B 1-19 1-12 1-1 1-E",
     "2-D 22-7A 45-34 10B-1C 3-30 2F-1F D-1D 5-25 A-1D 2-23 4-7 1-4 2A-9D 12-23 4-23 4-27 8-33",
     "C-A 1-E 1-6 1-1 1-A 1-E 1-6 1-1 3-33 C-136 9-15 A-7 18-5 1-29 1-8 45-5 2 1-2B 1-1 3 2-16",
     "A-16 9-1E 41-12 1-1 A-15 A-19 46-37 6-1 40 F-3 1-2 1-1C 2A-1C 3-1C 23-7 1-1B 1B-35 A-15",
     "A-12 D-11 6E-48 37-32 D-32 D-23 26-1B 9-16 FA-29 6-1 10-2 3B-1C A 8-15 2A-11 2E-14 1B-16",
     "C-34 39-1 2 D-2C 20-18 1A-23 1D 2 8-22 3 C-2F E-3 15 1 23-11 1-18 13-1 3F-6 1 1-3 1-E 1-9",
     "7-2E 26-7 2-1 2-15 1-6 1-1 1-4 3 12 C-4 1E-9 1 2 1-25 1 19 1 2C-34 12-3 14-2 1E-2F 14-1 1",
     "B8-2E 29-3 24-2F 14 3B-2A D 147-2B 74-3F 1F-7 2 2-7 1-1 1-17 F 1 5E-7 2-26 10 1 1C A-27 7",
     "15 B-2D 13 12-48 C7-20 1F-8 1-24 11 31-1D 70-6 1-1 1-25 15 19-5 1-1 1-1F E 147-12 F 1-C",
     "1-21 7C 4F-399 66-6E 11-C3 A4C-60 F-42F 11-5 19-F9A 5-246 1AB9-1D 6E2-238 7-1E 11-4E 11-1D",
     "12-2F 10-3 1F-14 5-12 1B0-2C D3-3F 80-4A 5 42-C 40-1 1 4C1C-6A 5-C 3-8 7-9 1766-54 1-46 1-1",
     "2 2-1 2-3 1-B 1 1-6 1-40 1-3 2-7 1-6 1-1B 1-3 1-4 1 3-6 1-153 2-18 1-18 1-1E 1-18 1-1E 1-18",
     "1-1E 1-18 1-1E 1-18 1-7 734-1E 6-5 105-3D 92-2C A-6 10 141-1D 12-2B 1E4-1B E4-1D 2 1EF-6",
     "1-3 1-1 1-E 1-C4 3B-43 7 4B4-3 1-1A 1-1 1 2 1-9 1-3 1 1 6 4 1 1 1-2 1-1 1 2 1 1 1 1 1-1 1",
     "2-3 1-6 1-3 1-3 1 1-9 1-10 5-2 1-4 1-10 274-19 6-19 6-19"]⟩,
  ⟨["cr"],
    ["D"]⟩,
  ⟨["dq", "doublequote"],
    ["22"]⟩,
  ⟨["extend"],
    ["300-6F 113-6 107-2C 1 1-1 1-1 1 48-A 30-14 10 65-6 2-5 2-1 1-3 23 1E-1A 5B-A 3A-8 9 18-3",
     "1-8 1-2 1-4 2B-2 3B-8 2A-17 1-20 36-2 1-11 1-6 A-1 1D-2 38 1-6 2-1 2-2 9 A-1 1A 2-2 38 1-4",
     "4-1 2-2 3 1E-1 3 B-2 38 1-7 1-2 1-2 14-1 16-5 1-2 38 1-6 2-1 2-2 7-2 A-1 1E 3B-4 3-2 1-3 9",
     "28-4 37 1-6 1-2 1-3 7-1 B-1 1D-2 38 1-6 1-2 1-3 7-1 B-1 F C-3 37-1 1-6 1-2 1-3 9 A-1 1D-2",
     "46 4-5 1 1-7 12-1 3D 2-6 C-7 62 2-8 B-6 49-1 1B 1 1 4-1 31-13 1-1 5-A 1-23 9 64-13 17-3 4-2",
     "1-2 2-6 3-3 D-B 1 A-3 2BF-2 3B2-3 1C-2 1D-1 1E-1 40-1F 9 2D-2 1 75-1 22 76-B 4-B DB-4 39-9",
     "1-1C 2 30-1E 31-4 2F-10 26-8 C-2 1E-C 38-D 30-13 98-2 1-14 4 6 2-2 C6-3F 20C C3-20 BFE-2 8D",
     "60-1F 22A-5 69-1 75D4-3 1-9 20-1 50-1 110 3 4 17-4 4 53-1 32-11 1A-11 D 26-7 19-C 2C-3 2F-D",
     "24 43-D C 8-1 2D-2 32 1-2 2-1 5-1 1 29-4 5-1 EC-7 1-1 4F30 2E1-F 10-F 16E-1 25D E2 95-4",
     "686-2 1-1 5-3 28-2 4 A5-1 23D-3 41-4 13D-1 4F-3 46-A 31-3 7A-2 35-E 29 2-1 A-3 2D-A 7 3D-2",
     "24-D 10-1 2C C-2 30-D 8-3 1-1 5C-B 6 2 9D-B 15-3 37-1 1-6 2-1 2-2 9 A-1 2-6 3-4 43-8 1 2",
     "1-3 1-4 1 E-1 52-11 17 51-13 EB-6 2-8 1B-1 52-10 6A-C 65-E 100-E F5-5 1-1 2-3 1 1-1 8D-6",
     "2-6 3 1C-9 28-6 1-3 8 9-A 2E-F 195-7 1-7 52-15 1-D 7A-5 3 1-1 1-6 1 42-4 1-1 1-4 15B-3 9-1",
     "1 30-6 3-4 17 14E5 6-E 2CC8-11 9C0-4 3B-6 418 1-36 7-3 51 B-1 4CAB-1 1261-2D 2-16 21E-4 3-5",
     "8-7 2-6 1E-3 94-2 7BB-36 4-31 8 E 16-4 1-E 550-6 1-10 2-6 1-1 1-4 64 A0-6 177 3D-3 1FC-3",
     "FE-1 2E0-6 6D-6 AB0-4 C0C20-5F 80-EF"]⟩,
  ⟨["ex", "extendnumlet"],
    ["5F 1FCF F-1 13 DDDE-1 18-2 EF"]⟩,
  ⟨["fo", "format"],
    ["AD 56E 11F1 7FF-1 1A-4 31-4 1-9 DE8F F9-2 3434-F 8860-3 14CF-7 C2E86"]⟩,
  ⟨["hl", "hebrewletter"],
    ["5D0-1A 4-3 F52A 1-9 1-C 1-4 1 1-1 1-1 1-9"]⟩,
  ⟨["ka", "katakana"],
    ["3031-4 65-1 3-5A 1-3 F0-F D0-2E 1-57 CC0E-37 B052-3 1-6 1-1 1 11F-2 32 E-3"]⟩,
  ⟨["lf"],
    ["A"]⟩,
  ⟨["ml", "midletter"],
    ["3A 7C 2CF 1D7 94 1A32 DDEB 41 C4"]⟩,
  ⟨["mn", "midnum"],
    ["2C E 342 20A 82-1 5E 18B 184B DE0B 3 B7 E"]⟩,
  ⟨["mb", "midnumlet"],
    ["2E 1FE9-1 A DE2D B4 6"]⟩,
  ⟨["nl", "newline"],
    ["B-1 78 1FA2-1"]⟩,
  ⟨["nu", "numeric"],
    ["30-9 5C6-5 5A-9 1 71 12-9 C6-9 C6-1 50 83-9 76-9 76-9 76-9 76-9 76-9 76-9 76-9 76-9 76-9",
     "60-9 76-9 46-9 116-9 46-9 746-9 26-9 12C-9 80-A A5-9 6-9 B6-9 56-9 86-9 6-9 89C6-9 2A6-9",
     "26-9 C6-9 16-9 56-9 196-9 5316-9 586-9 886-9 6-9 31C-9 4D F 22-9 3C-9 90-9 116-9 156-9 76-9",
     "176-9 66-9 6-13 4C-9 1A6-9 66-9 296-9 56-9 F6-9 46-9 1A6-9 41D6-9 926-9 56-9 86-9 216-9",
     "5F76-9 AD4-31 940-9 1A6-9 1F6-9 F7-9 355-9 1296-9"]⟩,
  ⟨["ri", "regionalindicator"],
    ["1F1E6-19"]⟩,
  ⟨["sq", "singlequote"],
    ["27"]⟩,
  ⟨["wsegspace"],
    ["20 165F 97F-6 1-2 54 FA0"]⟩,
  ⟨["zwj"],
    ["200D"]⟩]

def sentenceBreaks : List NamedSet := [
  ⟨["at", "aterm"],
    ["2E 1FF5 DE2D BB"]⟩,
  ⟨["cr"],
    ["D"]⟩,
  ⟨["cl", "close"],
    ["22 4-2 31 1 1D 1 2D F E7E-3 75D-1 97B-7 19-1 A-1 36-1 E-1 279-3 1D-1 430-5 7-D 4F-1 1F-9",
     "193-15 3F-3 20-1 402-D E-1 2-9 18 12-7 1AB-9 2-7 1-2 CD1E-1 D7-1 1C-F 2-1 10-5 A9-1 31 1 1D",
     "1 1-1 1-1 F712-2"]⟩,
  ⟨["ex", "extend"],
    ["300-6F 113-6 107-2C 1 1-1 1-1 1 48-A 30-14 10 65-6 2-5 2-1 1-3 23 1E-1A 5B-A 3A-8 9 18-3",
     "1-8 1-2 1-4 2B-2 3B-8 2A-17 1-20 36-2 1-11 1-6 A-1 1D-2 38 1-6 2-1 2-2 9 A-1 1A 2-2 38 1-4",
     "4-1 2-2 3 1E-1 3 B-2 38 1-7 1-2 1-2 14-1 16-5 1-2 38 1-6 2-1 2-2 7-2 A-1 1E 3B-4 3-2 1-3 9",
     "28-4 37 1-6 1-2 1-3 7-1 B-1 1D-2 38 1-6 1-2 1-3 7-1 B-1 F C-3 37-1 1-6 1-2 1-3 9 A-1 1D-2",
     "46 4-5 1 1-7 12-1 3D 2-6 C-7 62 2-8 B-6 49-1 1B 1 1 4-1 31-13 1-1 5-A 1-23 9 64-13 17-3 4-2",
     "1-2 2-6 3-3 D-B 1 A-3 2BF-2 3B2-3 1C-2 1D-1 1E-1 40-1F 9 2D-2 1 75-1 22 76-B 4-B DB-4 39-9",
     "1-1C 2 30-1E 31-4 2F-10 26-8 C-2 1E-C 38-D 30-13 98-2 1-14 4 6 2-2 C6-3F 20C-1 C2-20 BFE-2",
     "8D 60-1F 22A-5 69-1 75D4-3 1-9 20-1 50-1 110 3 4 17-4 4 53-1 32-11 1A-11 D 26-7 19-C 2C-3",
     "2F-D 24 43-D C 8-1 2D-2 32 1-2 2-1 5-1 1 29-4 5-1 EC-7 1-1 4F30 2E1-F 10-F 16E-1 25D E2",
     "95-4 686-2 1-1 5-3 28-2 4 A5-1 23D-3 41-4 13D-1 4F-3 46-A 31-3 7A-2 35-E 29 2-1 A-3 2D-A 7",
     "3D-2 24-D 10-1 2C C-2 30-D 8-3 1-1 5C-B 6 2 9D-B 15-3 37-1 1-6 2-1 2-2 9 A-1 2-6 3-4 43-8 1",
     "2 1-3 1-4 1 E-1 52-11 17 51-13 EB-6 2-8 1B-1 52-10 6A-C 65-E 100-E F5-5 1-1 2-3 1 1-1 8D-6",
     "2-6 3 1C-9 28-6 1-3 8 9-A 2E-F 195-7 1-7 52-15 1-D 7A-5 3 1-1 1-6 1 42-4 1-1 1-4 15B-3 9-1",
     "1 30-6 3-4 17 14E5 6-E 2CC8-11 9C0-4 3B-6 418 1-36 7-3 51 B-1 4CAB-1 1261-2D 2-16 21E-4 3-5",
     "8-7 2-6 1E-3 94-2 7BB-36 4-31 8 E 16-4 1-E 550-6 1-10 2-6 1-1 1-4 64 A0-6 177 3D-3 1FC-3",
     "FE-1 2E0-6 6D-6 C16D5-5F 80-EF"]⟩,
  ⟨["fo", "format"],
    ["AD 56E F2 10FE 7FC 2-1 1A-4 31-4 1-9 DE8F F9-2 3434-F 8860-3 14CF-7 C2E86"]⟩,
  ⟨["lf"],
    ["A"]⟩,
  ⟨["lo", "lower"],
    ["61-19 2F A 4 24-17 1-7 1 1 1 1 1 1 1 1 1 1 1 1 1 1 1 1 1 1 1 1 1 1 1 1 1 1 1 1-1 1 1 1 1 1",
     "1 1 1-1 1 1 1 1 1 1 1 1 1 1 1 1 1 1 1 1 1 1 1 1 1 1 1 2 1 1-2 2 1 2 3-1 4 2 3-2 2 2 1 1 2",
     "1-1 1 2 3 1 2-1 2-2 6 2 2 1 1 1 1 1 1 1 1-1 1 1 1 1 1 1 1 1 1-1 2 1 3 1 1 1 1 1 1 1 1 1 1 1",
     "1 1 1 1 1 1 1 1 1 1 1 1 1 1 1 1 1 1-6 2 2-1 1 4 1 1 1 1-44 1-23 7-1 1E-4 8C 1 3 2-3 12",
     "1B-22 1-1 3-2 1 1 1 1 1 1 1 1 1 1 1 1-4 1 2 2-1 33-2F 1 1 1 1 1 1 1 1 1 1 1 1 1 1 1 1 1 9 1",
     "1 1 1 1 1 1 1 1 1 1 1 1 1 1 1 1 1 1 1 1 1 1 1 1 1 2 1 1 1 1 1 1-1 1 1 1 1 1 1 1 1 1 1 1 1 1",
     "1 1 1 1 1 1 1 1 1 1 1 1 1 1 1 1 1 1 1 1 1 1 1 1 1 1 1 1 1 1 1 1 1 1 1 30-28 B73 2FB-5 882-8",
     "1 75-BF 41 1 1 1 1 1 1 1 1 1 1 1 1 1 1 1 1 1 1 1 1 1 1 1 1 1 1 1 1 1 1 1 1 1 1 1 1 1 1 1 1",
     "1 1 1 1 1 1 1 1 1 1 1 1 1 1 1 1 1 1 1 1 1 1 1 1 1 1 1 1 1 1 1 1 1 1-8 1 1 1 1 1 1 1 1 1 1 1",
     "1 1 1 1 1 1 1 1 1 1 1 1 1 1 1 1 1 1 1 1 1 1 1 1 1 1 1 1 1 1 1 1 1 1 1 1 1 1-8 8-5 A-7 8-7",
     "8-5 A-7 8-7 8-D 2-7 8-7 8-7 8-4 1-1 6 3-2 1-1 8-3 2-1 8-7 A-2 1-1 79 D 10-C 6D 3-1 3 1B 4 4",
     "2-1 8-3 4 21-F 4 34B-19 746-2F 1 3-1 1 1 1 4 1-1 1-7 3 1 1 1 1 1 1 1 1 1 1 1 1 1 1 1 1 1 1",
     "1 1 1 1 1 1 1 1 1 1 1 1 1 1 1 1 1 1 1 1 1 1 1 1 1 1 1 1 1 1 1-1 7 1 4 C-25 1 5 7913 1 1 1 1",
     "1 1 1 1 1 1 1 1 1 1 1 1 1 1 1 1 1 1 13 1 1 1 1 1 1 1 1 1 1 1 1 1-2 85 1 1 1 1 1 1-2 1 1 1 1",
     "1 1 1 1 1 1 1 1 1 1 1 1 1 1 1 1 1 1 1 1 1 1 1 1 1 1 1-9 1 1 2 1 1 1 1 4 1 2 1-2 1 1 1 1 1 1",
     "1 1 1 1 5 5 1 1 1 1 1 1 1 4 1 2 3 1 1 1 1 1 16-2 1 1-2 335-2A 1-D 6-4F 4F40-6 C-4 429-19",
     "4CD-27 88-23 9B-A 1-E 1-6 1-1 1C3 2-2 1-29 1-8 505-32 7D-15 B3A-1F 5580-1F 659A-19 1A-6",
     "1-11 1A-19 1A-3 1 1-6 1-A 1A-19 1A-19 1A-19 1A-19 1A-19 1A-19 1A-19 1A-19 1A-1B 1C-18 1-5",
     "1A-18 1-5 1A-18 1-5 1A-18 1-5 1A-18 1-5 1 734-9 1-13 6-5 105-3D 8B4-21"]⟩,
  ⟨["nu", "numeric"],
    ["30-9 5C6-5 5A-9 1-1 70 12-9 C6-9 C6-1 50 83-9 76-9 76-9 76-9 76-9 76-9 76-9 76-9 76-9 76-9",
     "60-9 76-9 46-9 116-9 46-9 746-9 26-9 12C-9 80-A A5-9 6-9 B6-9 56-9 86-9 6-9 89C6-9 2A6-9",
     "26-9 C6-9 16-9 56-9 196-9 5316-9 586-9 886-9 6-9 31C-9 4D F 22-9 3C-9 90-9 116-9 156-9 76-9",
     "176-9 66-9 6-13 4C-9 1A6-9 66-9 296-9 56-9 F6-9 46-9 1A6-9 41D6-9 926-9 56-9 86-9 216-9",
     "5F76-9 AD4-31 940-9 1A6-9 1F6-9 F7-9 355-9 1296-9"]⟩,
  ⟨["le", "oletter"],
    ["1BB 4-3 D0 24-6 6-B 1A 1 85 1E4 76-1A 4-4 2C-2A 23-1 1-62 1 F-1 7-1 A-2 2 10 1-1D 1D-58 B",
     "18-20 9-1 4 5-15 4 9 3 17-18 7-A 5-17 1-5 11-29 3A-35 3 12 7-9 F-F 4-7 2-1 2-15 1-6 1 3-3 3",
     "10 D-1 1-2 E-1 A 8-5 4-1 2-15 1-6 1-1 1-1 1-1 1F-3 1 13-2 10-8 1-2 1-15 1-6 1-1 1-4 3 12",
     "F-1 17 B-7 2-1 2-15 1-6 1-1 1-4 3 1E-1 1-2 F 11 1-5 3-2 1-3 3-1 1 1-1 3-1 3-2 3-B 16 34-7",
     "1-2 1-16 1-F 3 1A-2 2 2-1 1E 4-7 1-2 1-16 1-9 1-4 3 1F-1 1-1 F-1 11-8 1-2 1-28 2 10 5-2 8-2",
     "18-5 5-11 3-17 1-8 1 2-6 3A-2F 1-1 C-6 3A-1 1 1-4 1-17 1 1-9 1-1 9 2-4 1 15-3 20 3F-7 1-23",
     "1B-4 73-2A 14 10-5 4-3 3 3-1 7-2 4-C C 41-2A 2-14B 1-3 2-6 1 1-3 2-28 1-3 2-20 1-3 2-6 1",
     "1-3 2-E 1-38 1-3 2-42 25-F 71-26B 2-10 1-19 5-4A 3-A 7-11 D-12 E-11 E-C 1-2 F-33 23 4 43-58",
     "7-4 2-21 1 5-45 A-1E 31-1D 2-4 B-2B 4-19 36-16 9-34 52 5D-2E 11-7 36-1D D-1 A-2B 1A-23 29-2",
     "A-23 12-2A 2-2 29-3 1-5 1-1 3 43A-3 47-2 2-3 BA7-37 7 10-16 9-6 1-6 1-6 1-6 1-6 1-6 1-6 1-6",
     "50 1D5-2 19-8 7-4 2-4 4-55 6-2 1-59 1-3 5-2A 1-5D 11-1F 30-F 200-19BF 40-568C 43-2D 2-10C",
     "3-F A-1 42 10 20-4F 27-8 68 6 67 3-6 1-2 1-3 1-16 1D-33 E-31 3E-5 3 1-1 B-1B A-16 19-1C",
     "7-2E 1C 10-4 1-9 A-4 1-28 17-2 1-7 14-16 3 3-31 1 3-1 2-4 2 1 18-2 2-A 7-2 C-5 2-5 2-5 9-6",
     "1-6 91-22 1D-2BA3 C-16 4-30 2104-16D 2-69 43 1-9 1-C 1-4 1 1-1 1-1 1-6B 21-16A 12-3F 2-35",
     "28-B 74-4 1-86 69-37 2-1E 3-5 2-5 2-5 2-2 23-B 1-19 1-12 1-1 1-E 2-D 22-7A 45-34 10B-1C",
     "3-30 2F-1F D-1D 5-25 A-1D 2-23 4-7 1-4 7A-4D 62-27 8-33 5C-33 C-136 9-15 A-7 19-1 7D-5 2",
     "1-2B 1-1 3 2-16 A-16 9-1E 41-12 1-1 A-15 A-19 46-37 6-1 40 F-3 1-2 1-1C 2A-1C 3-1C 23-7",
     "1-1B 1B-35 A-15 A-12 D-11 6E-48 B7-23 26-5 1F 110-29 6-1 10-2 3B-1C A 8-15 2A-11 2E-14",
     "1B-16 C-34 39-1 2 D-2C 20-18 1A-23 1D 2 8-22 3 C-2F E-3 15 1 23-11 1-18 13-1 3F-6 1 1-3 1-E",
     "1-9 7-2E 26-7 2-1 2-15 1-6 1-1 1-4 3 12 C-4 1E-9 1 2 1-25 1 19 1 2C-34 12-3 14-2 1E-2F 14-1",
     "1 B8-2E 29-3 24-2F 14 3B-2A D 47-1A 25-6 B9-2B D3-7 2 2-7 1-1 1-17 F 1 5E-7 2-26 10 1 1C",
     "A-27 7 15 B-2D 13 12-48 C7-20 1F-8 1-24 11 31-1D 70-6 1-1 1-25 15 19-5 1-1 1-1F E 147-12 F",
     "1-C 1-21 7C 4F-399 66-6E 11-C3 A4C-60 F-42F 11-5 19-F9A 5-246 1AB9-1D 6E2-238 7-1E 11-4E",
     "11-1D 12-2F 10-3 1F-14 5-12 1B0-2C 193-4A 5 42-C 40-1 1 1C-17F7 8-4D5 29-9 22E7-3 1-6 1-1",
     "1-122 F 1D-2 2 E-3 8-18B 904-6A 5-C 3-8 7-9 2270 1F5-2C A-6 10 141-1D 12-2B 1E4-1B E4-1D 2",
     "1EF-6 1-3 1-1 1-E 1-C4 86 4B4-3 1-1A 1-1 1 2 1-9 1-3 1 1 6 4 1 1 1-2 1-1 1 2 1 1 1 1 1-1 1",
     "2-3 1-6 1-3 1-3 1 1-9 1-10 5-2 1-4 1-10 1144-A6DF 20-1039 6-DD 2-1681 E-1D30 F-26D 9A2-21D",
     "5E2-134A 5-105F"]⟩,
  ⟨["sc", "scontinue"],
    ["2C-1 C-1 342 1DE AE-1 1EA 1009 5 80A-1 FEC CE0E-1 1-1 1C-1 1D-1 2-1 2 A A8-1 C-1 48"]⟩,
  ⟨["st", "sterm"],
    ["21 1D 549 93-2 B4 2B-2 F6 3D 1 3-1 125-1 6E4-1 316 4-1 305 C6-1 CC 5 13A-1 162-3 A2-1 A-1",
     "2-1 1D-2 BB-1 41-1 3BC-1 9-2 CAF-2 132 D 16-1 1AD 74FC 10E-1 E3 3 17E-1 56-1 5F 98-1 93-2",
     "90-1 F9 5226 2-1 3F-1 A9 1D 41 AF4-1 4FD-4 2C-3 BD-1 75-3 7F-2 81-1 6 10-1 58-1 1-1 6C",
     "12A-1 75-1 175-1 5-E 69-1 F9-2 205 1 FB-1 57-1 1A4-1 2B4-1 4A-1 4B29-1 85 41-1 B 229-1 128",
     "4E06 1DE8"]⟩,
  ⟨["se", "sep"],
    ["85 1FA2-1"]⟩,
  ⟨["sp"],
    ["9 1-1 13 7F 15DF 97F-A 24 2F FA0"]⟩,
  ⟨["up", "upper"],
    ["41-19 65-16 1-6 21 1 1 1 1 1 1 1 1 1 1 1 1 1 1 1 1 1 1 1 1 1 1 1 1 1 1 1 2 1 1 1 1 1 1 1 2",
     "1 1 1 1 1 1 1 1 1 1 1 1 1 1 1 1 1 1 1 1 1 1 1-1 1 1 3-1 1 1-1 1-2 2-3 1-1 1-2 3-1 1-1 1 1",
     "1-1 1 2 1-1 1-2 1 1-1 3 7-1 1-1 1-1 1 1 1 1 1 1 1 1 2 1 1 1 1 1 1 1 1 2-1 1 1-2 1 1 1 1 1 1",
     "1 1 1 1 1 1 1 1 1 1 1 1 1 1 1 1 1 1 1 1 1 1 1 7-1 1-1 2 1-3 1 1 1 1 121 1 3 8 6 1-2 1 1-1",
     "1-10 1-8 23 2-2 3 1 1 1 1 1 1 1 1 1 1 1 5 2 1-1 2-32 30 1 1 1 1 1 1 1 1 1 1 1 1 1 1 1 1 9 1",
     "1 1 1 1 1 1 1 1 1 1 1 1 1 1 1 1 1 1 1 1 1 1 1 1 1 1-1 1 1 1 1 1 1 2 1 1 1 1 1 1 1 1 1 1 1 1",
     "1 1 1 1 1 1 1 1 1 1 1 1 1 1 1 1 1 1 1 1 1 1 1 1 1 1 1 1 1 1 1 1 1 1 1 2-25 B49-25 1 5",
     "2D2-55 893 176 1 1 1 1 1 1 1 1 1 1 1 1 1 1 1 1 1 1 1 1 1 1 1 1 1 1 1 1 1 1 1 1 1 1 1 1 1 1",
     "1 1 1 1 1 1 1 1 1 1 1 1 1 1 1 1 1 1 1 1 1 1 1 1 1 1 1 1 1 1 1 1 1 1 1 1 9 1 1 1 1 1 1 1 1 1",
     "1 1 1 1 1 1 1 1 1 1 1 1 1 1 1 1 1 1 1 1 1 1 1 1 1 1 1 1 1 1 1 1 1 1 1 1 1 1 1 9-7 8-5 A-7",
     "8-7 8-5 B 1 1 1 8-7 18-7 8-7 8-7 8-4 B-4 B-3 C-4 B-4 105 4 3-2 2-2 2 3-4 6 1 1 1-3 2-3 A-1",
     "5 1A-F 13 332-19 730-2F 30 1-2 2 1 1 1-3 1 2 8-2 1 1 1 1 1 1 1 1 1 1 1 1 1 1 1 1 1 1 1 1 1",
     "1 1 1 1 1 1 1 1 1 1 1 1 1 1 1 1 1 1 1 1 1 1 1 1 1 1 1 1 8 1 4 794D 1 1 1 1 1 1 1 1 1 1 1 1",
     "1 1 1 1 1 1 1 1 1 1 13 1 1 1 1 1 1 1 1 1 1 1 1 1 87 1 1 1 1 1 1 3 1 1 1 1 1 1 1 1 1 1 1 1 1",
     "1 1 1 1 1 1 1 1 1 1 1 1 1 1 1 1 1 A 1 1-1 1 1 1 1 4 1 2 1 3 1 1 1 1 1 1 1 1 1 1-4 1-4 1 1 1",
     "1 1 1 1 1-3 1 1-1 3 5 1 1 1 18 572B-19 4C5-27 88-23 9C-A 1-E 1-6 1-1 6EA-32 9D-15 B3A-1F",
     "5580-1F 65A0-19 1A-19 1A-19 1A 1-1 2 2-1 2-3 1-7 1A-19 1A-1 1-3 2-7 1-6 1B-1 1-3 1-4 1 3-6",
     "1B-19 1A-19 1A-19 1A-19 1A-19 1A-19 1E-18 21-18 21-18 21-18 21-18 21 1135-21 80E-19 6-19",
     "6-19"]⟩]

end NowNext.Unicode
