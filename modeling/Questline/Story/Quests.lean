import Questline.Story.Authoring

/-! The built-in quests: a main line of three, and side quests that it unlocks. -/

namespace Questline.Story

open Authoring

def prologue : Value :=
  graph "quest" "Prologue: The Distress Call"
    ("Your routine cargo delivery is interrupted by a mysterious distress signal from a " ++
     "nearby system.")
    "main" "quest_main_prologue_stage_1"
    [("main", true)] [
      node "quest_main_prologue_stage_1"
        ("As your ship moves through hyperspace, a distress signal breaks through. It " ++
         "seems to be coming from the Proxima system - not far from your route, but " ++
         "definitely a detour.")
        [
          ("title", "Unexpected Signal"),
          ("location", "ship"),
          ("entry_outcomes", .list [unlockCompanion "engineer"])] [
          choice "quest_main_prologue_stage_1_choice_1"
            "Investigate the distress signal"
            (toNode "quest_main_prologue_stage_2")
            [] [
              setFlag "investigatedDistressSignal",
              unlockLocation "proxima_derelict",
              grantExperience 50],
          choice "quest_main_prologue_stage_1_choice_2"
            "Continue to your destination"
            (toGraph "quest_main_cargo_delivery")
            [] [
              setFlag "ignoredDistressSignal",
              reputation "Alliance" (-5),
              unlockLocation "frontier_outpost"]],
      node "quest_main_prologue_stage_2"
        ("You arrive at the source of the distress signal. It's a damaged Alliance " ++
         "research vessel, drifting silently. Scans show minimal power and life support, " ++
         "but there could be survivors.")
        [("title", "The Derelict Ship"), ("location", "proxima_derelict")] [
          choice "quest_main_prologue_stage_2_choice_1"
            "Dock and board the vessel"
            (toNode "quest_main_prologue_stage_3")
            [needsSkill "Technical" 2] [
              grantExperience 100,
              giveItem "encrypted_data_core",
              setFlag "discoveredArtifactData"],
          choice "quest_main_prologue_stage_2_choice_2"
            "Send a rescue beacon and continue your journey"
            (toGraph "quest_main_cargo_delivery")
            [] [reputation "Alliance" 5, unlockLocation "frontier_outpost"],
          choice "quest_main_prologue_stage_2_choice_3"
            "Scan for valuable salvage before deciding"
            (toNode "quest_main_prologue_stage_2_alt")
            [needsSkill "Scientific" 1] [grantExperience 75, giveItem "advanced_scanner"]],
      node "quest_main_prologue_stage_2_alt"
        ("Your scan reveals not only the expected ship systems but also something unusual " ++
         "- a secure containment unit in the research bay that's still receiving " ++
         "emergency power.")
        [("title", "Valuable Discovery"), ("location", "proxima_derelict")] [
          choice "quest_main_prologue_stage_2_alt_choice_1"
            "Board the vessel and investigate the containment unit"
            (toNode "quest_main_prologue_stage_3_artifact")
            [] [
              grantExperience 150,
              giveItem "mysterious_artifact",
              setFlag "discoveredArtifact"],
          choice "quest_main_prologue_stage_2_alt_choice_2"
            "The risk is too high - send a rescue beacon and continue"
            (toGraph "quest_main_cargo_delivery")
            [] [reputation "Alliance" 5, unlockLocation "frontier_outpost"]],
      node "quest_main_prologue_stage_3"
        ("You board the vessel and find signs of a struggle. The few crew members you " ++
         "find are deceased. The ship's logs indicate they were transporting something " ++
         "important when they were attacked.")
        [("title", "Ship Exploration"), ("location", "proxima_derelict")] [
          choice "quest_main_prologue_stage_3_choice_1"
            "Take what you can and leave quickly"
            (toGraph "quest_main_cargo_delivery")
            [] [
              giveItem "alliance_insignia",
              giveItem "emergency_supplies",
              setFlag "tookDerelictSupplies",
              unlockLocation "frontier_outpost"],
          choice "quest_main_prologue_stage_3_choice_2"
            "Thoroughly search the research bay"
            (toGraph "quest_main_artifact_mystery")
            [needsSkill "Scientific" 2] [
              grantExperience 150,
              giveItem "mysterious_artifact",
              setFlag "discoveredArtifact"]],
      node "quest_main_prologue_stage_3_artifact"
        ("Inside the containment unit, you find a strange object unlike anything you've " ++
         "seen. It appears ancient but gives off a faint energy signature. As you " ++
         "approach, you feel an odd sensation, as if it's somehow aware of your presence.")
        [("title", "The Artifact"), ("location", "proxima_derelict")] [
          choice "quest_main_prologue_stage_3_artifact_choice_1"
            "Take the artifact with you"
            (toGraph "quest_main_artifact_mystery")
            [] [
              grantExperience 200,
              setFlag "tookArtifact",
              unlockQuest "quest_main_artifact_mystery"],
          choice "quest_main_prologue_stage_3_artifact_choice_2"
            "Leave it and report your findings to the Alliance"
            (toGraph "quest_main_cargo_delivery")
            [] [
              reputation "Alliance" 15,
              setFlag "reportedArtifact",
              unlockQuest "quest_alliance_alliance_trust",
              unlockLocation "frontier_outpost"],
          choice "quest_main_prologue_stage_3_artifact_choice_3"
            "Contact the Syndicate about your valuable find"
            (toGraph "quest_main_cargo_delivery")
            [needsReputation "Syndicate" (-5)] [
              reputation "Syndicate" 15,
              reputation "Alliance" (-10),
              giveItem "syndicate_payment",
              setFlag "contactedSyndicate",
              unlockQuest "quest_syndicate_syndicate_interest",
              unlockLocation "frontier_outpost"]]]

def cargoDelivery : Value :=
  graph "quest" "Routine Delivery"
    "Complete your cargo delivery to Frontier Outpost."
    "main" "quest_main_cargo_delivery_stage_1"
    [("main", true)] [
      node "quest_main_cargo_delivery_stage_1"
        ("You arrive at Frontier Outpost with your cargo. The station seems unusually " ++
         "busy, with several ships docked and security running additional scans.")
        [("title", "Arrival at Frontier Outpost"), ("location", "frontier_outpost")] [
          choice "quest_main_cargo_delivery_stage_1_choice_1"
            "Deliver the cargo as planned"
            (toNode "quest_main_cargo_delivery_stage_2")
            [] [grantExperience 100, giveItem "credits_payment", setFlag "completedDelivery"],
          choice "quest_main_cargo_delivery_stage_1_choice_2"
            "Inspect your cargo before delivery"
            (toNode "quest_main_cargo_delivery_stage_1_inspect")
            [needsSkill "Technical" 1] [grantExperience 75, setFlag "inspectedCargo"]],
      node "quest_main_cargo_delivery_stage_1_inspect"
        ("Your inspection reveals that the cargo contains more than the manifested " ++
         "supplies. Hidden compartments hold what appear to be experimental weapon " ++
         "components.")
        [("title", "Suspicious Contents"), ("location", "frontier_outpost")] [
          choice "quest_main_cargo_delivery_stage_1_inspect_choice_1"
            "Deliver as planned and say nothing"
            (toNode "quest_main_cargo_delivery_stage_2")
            [] [
              grantExperience 100,
              giveItem "credits_payment",
              reputation "Syndicate" 5,
              setFlag "smuggledWeapons"],
          choice "quest_main_cargo_delivery_stage_1_inspect_choice_2"
            "Report the suspicious cargo to station security"
            (toNode "quest_main_cargo_delivery_stage_3_alliance")
            [] [
              grantExperience 150,
              reputation "Alliance" 10,
              reputation "Syndicate" (-15),
              setFlag "reportedSmugglers"],
          choice "quest_main_cargo_delivery_stage_1_inspect_choice_3"
            "Confront your contact about the true contents"
            (toNode "quest_main_cargo_delivery_stage_3_syndicate")
            [needsSkill "Social" 2] [
              grantExperience 125,
              giveItem "bonus_payment",
              setFlag "negotiatedWithSmugglers"]],
      node "quest_main_cargo_delivery_stage_2"
        ("With your delivery complete, you have time to explore the outpost. The " ++
         "station's job board shows several interesting opportunities.")
        [("title", "New Opportunities"), ("location", "frontier_outpost")] [
          choice "quest_main_cargo_delivery_stage_2_choice_1"
            "Look for legitimate transport work"
            (toGraph "quest_alliance_supply_run")
            [] [unlockQuest "quest_alliance_supply_run", unlockLocation "mining_colony"],
          choice "quest_main_cargo_delivery_stage_2_choice_2"
            "Seek higher-paying but riskier jobs"
            (toGraph "quest_syndicate_valuable_cargo")
            [] [
              unlockQuest "quest_syndicate_valuable_cargo",
              unlockLocation "syndicate_hideout"],
          choice "quest_main_cargo_delivery_stage_2_choice_3"
            "Investigate rumors of an ancient ruin"
            (toGraph "quest_main_artifact_mystery")
            [needsFlag "discoveredArtifact"] [
              unlockQuest "quest_main_artifact_mystery",
              unlockLocation "ancient_ruins"]],
      node "quest_main_cargo_delivery_stage_3_alliance"
        ("The Alliance security officer thanks you for your vigilance. The smugglers are " ++
         "arrested, and you've prevented dangerous weapons from reaching the wrong hands.")
        [("title", "Alliance Gratitude"), ("location", "frontier_outpost")] [
          choice "quest_main_cargo_delivery_stage_3_alliance_choice_1"
            "Accept a position as an Alliance informant"
            (toGraph "quest_alliance_alliance_trust")
            [] [reputation "Alliance" 15, unlockQuest "quest_alliance_alliance_trust"],
          choice "quest_main_cargo_delivery_stage_3_alliance_choice_2"
            "Decline further involvement"
            (toGraph "quest_independent_free_agent")
            [] [unlockQuest "quest_independent_free_agent"]],
      node "quest_main_cargo_delivery_stage_3_syndicate"
        ("Your contact is impressed by your perception and nerve. They offer you a " ++
         "position in their smuggling network, promising substantial rewards.")
        [("title", "Syndicate Proposition"), ("location", "frontier_outpost")] [
          choice "quest_main_cargo_delivery_stage_3_syndicate_choice_1"
            "Accept the Syndicate's offer"
            (toGraph "quest_syndicate_syndicate_rising")
            [] [
              reputation "Syndicate" 20,
              reputation "Alliance" (-10),
              unlockQuest "quest_syndicate_syndicate_rising"],
          choice "quest_main_cargo_delivery_stage_3_syndicate_choice_2"
            "Decline but keep it cordial"
            (toGraph "quest_independent_free_agent")
            [] [unlockQuest "quest_independent_free_agent"]]]

def artifactMystery : Value :=
  graph "quest" "The Ancient Artifact"
    "Investigate the mysterious artifact you discovered and uncover its origins and purpose."
    "main" "quest_main_artifact_mystery_stage_1"
    [("main", true), ("requirements", .list [needsFlag "discoveredArtifact"])] [
      node "quest_main_artifact_mystery_stage_1"
        ("The artifact has been emitting occasional pulses of energy since you acquired " ++
         "it. You notice it seems to respond to your proximity, and you've begun having " ++
         "unusual dreams.")
        [("title", "Strange Effects"), ("location", "ship")] [
          choice "quest_main_artifact_mystery_stage_1_choice_1"
            "Seek a scientific expert"
            (toNode "quest_main_artifact_mystery_stage_2_science")
            [] [grantExperience 100, unlockLocation "research_station"],
          choice "quest_main_artifact_mystery_stage_1_choice_2"
            "Consult with the Mystics"
            (toNode "quest_main_artifact_mystery_stage_2_mystics")
            [] [
              grantExperience 100,
              reputation "Mystics" 10,
              unlockLocation "mystic_sanctuary"],
          choice "quest_main_artifact_mystery_stage_1_choice_3"
            "Find a buyer on the black market"
            (toGraph "quest_syndicate_syndicate_interest")
            [] [
              grantExperience 75,
              reputation "Syndicate" 15,
              giveItem "large_credit_payment",
              removeItem "mysterious_artifact",
              setFlag "soldArtifact",
              unlockQuest "quest_syndicate_syndicate_interest"]],
      node "quest_main_artifact_mystery_stage_2_science"
        ("The research station's xenoarchaeologist runs every scan she has. The " ++
         "artifact's lattice is older than any known civilization, and it is slowly " ++
         "rewriting the station's sensor logs.")
        [("title", "Under the Microscope"), ("location", "research_station")] [
          choice "quest_main_artifact_mystery_stage_2_science_choice_1"
            "Share your findings with the Alliance Science Division"
            toEnd
            [] [grantExperience 150, reputation "Alliance" 10, setFlag "artifactStudied"],
          choice "quest_main_artifact_mystery_stage_2_science_choice_2"
            "Try to decode the lattice yourself"
            toEnd
            [needsSkill "Scientific" 3] [
              grantExperience 250,
              setFlag "artifactDecoded",
              startPuzzle "artifact_lattice"]],
      node "quest_main_artifact_mystery_stage_2_mystics"
        ("The Mystics receive you in silence. Their elder says the artifact is a key, and " ++
         "that something on the other side of the void is listening for it.")
        [("title", "The Sanctuary"), ("location", "mystic_sanctuary")] [
          choice "quest_main_artifact_mystery_stage_2_mystics_choice_1"
            "Join the attunement ritual"
            toEnd
            [] [grantExperience 150, reputation "Mystics" 15, setFlag "attunedToArtifact"],
          choice "quest_main_artifact_mystery_stage_2_mystics_choice_2"
            "Answer the voice on the other side"
            toEnd
            [needsNoFlag "reportedArtifact"] [
              reputation "VoidEntity" 30,
              ending "voidCorruption" true]]]

def supplyRun : Value :=
  graph "quest" "Supply Run"
    "Haul medical supplies to the mining colony for the Alliance."
    "alliance" "quest_alliance_supply_run_stage_1"
    [
      ("locked", true),
      ("completion_outcomes", .list [reputation "Alliance" 5, reputation "Settlers" 10])] [
      node "quest_alliance_supply_run_stage_1"
        ("The colony's quartermaster signs for the crates. Pirates have been hitting " ++
         "freighters on the colony lane.")
        [("title", "Loaded and Ready")] [
          choice "quest_alliance_supply_run_stage_1_choice_1"
            "Take the direct lane and be ready for a fight"
            toEnd
            [] [startCombat "colony_lane_pirates", grantExperience 100],
          choice "quest_alliance_supply_run_stage_1_choice_2"
            "Take the long way around the asteroid belt"
            toEnd
            [] [grantExperience 50]]]

def valuableCargo : Value :=
  graph "quest" "Valuable Cargo"
    "A Syndicate broker needs a package moved, no questions asked."
    "syndicate" "quest_syndicate_valuable_cargo_stage_1"
    [("locked", true), ("failure_outcomes", .list [reputation "Syndicate" (-10)])] [
      node "quest_syndicate_valuable_cargo_stage_1"
        "The broker slides a sealed case across the table. Half now, half on delivery."
        [("title", "No Questions Asked")] [
          choice "quest_syndicate_valuable_cargo_stage_1_choice_1"
            "Take the job"
            toEnd
            [] [giveItem "sealed_case", reputation "Syndicate" 10]]]

def freeAgent : Value :=
  graph "quest" "Free Agent"
    "Owe nothing to anyone and make your own way on the frontier."
    "independent" "quest_independent_free_agent_stage_1"
    [("locked", true)] [
      node "quest_independent_free_agent_stage_1"
        "For the first time in years nobody is telling you where to fly."
        [("title", "Open Skies")] [
          choice "quest_independent_free_agent_stage_1_choice_1"
            "Plot a course for the frontier"
            toEnd
            [] [reputation "Independent" 15, setFlag "freeAgent"]]]

def allianceTrust : Value :=
  graph "quest" "Alliance Trust"
    "The Alliance is watching to see whether you can be trusted."
    "alliance" "quest_alliance_alliance_trust_stage_1"
    [("locked", true), ("requirements", .list [needsReputation "Alliance" 10])] [
      node "quest_alliance_alliance_trust_stage_1"
        "An Alliance commander reviews your file and offers you a commission."
        [("title", "Debriefing")] [
          choice "quest_alliance_alliance_trust_stage_1_choice_1"
            "Accept the commission"
            toEnd
            [needsReputation "Alliance" 75] [ending "allianceHero" false],
          choice "quest_alliance_alliance_trust_stage_1_choice_2"
            "Ask for time to think it over"
            toEnd
            [] [reputation "Alliance" 5]]]

def syndicateInterest : Value :=
  graph "quest" "Syndicate Interest"
    "The Syndicate has taken an interest in you and your cargo."
    "syndicate" "quest_syndicate_syndicate_interest_stage_1"
    [("locked", true)] [
      node "quest_syndicate_syndicate_interest_stage_1"
        "Two Syndicate enforcers are waiting in your cargo bay. Their boss would like a word."
        [("title", "A Friendly Visit")] [
          choice "quest_syndicate_syndicate_interest_stage_1_choice_1"
            "Hear them out"
            toEnd
            [] [reputation "Syndicate" 5, unlockLocation "syndicate_hideout"],
          choice "quest_syndicate_syndicate_interest_stage_1_choice_2"
            "Throw them off your ship"
            toEnd
            [] [startCombat "cargo_bay_enforcers", reputation "Syndicate" (-10)]]]

def syndicateRising : Value :=
  graph "quest" "Syndicate Rising"
    "Climb the ranks of the Syndicate's smuggling network."
    "syndicate" "quest_syndicate_syndicate_rising_stage_1"
    [("locked", true), ("requirements", .list [needsQuest "quest_main_cargo_delivery"])] [
      node "quest_syndicate_syndicate_rising_stage_1"
        "The network's leadership is fractured. Someone with nerve could take the whole thing."
        [("title", "The Inner Circle")] [
          choice "quest_syndicate_syndicate_rising_stage_1_choice_1"
            "Make your move"
            toEnd
            [needsReputation "Syndicate" 50] [ending "syndicateLeader" false],
          choice "quest_syndicate_syndicate_rising_stage_1_choice_2"
            "Bide your time"
            toEnd
            [] [reputation "Syndicate" 5]]]

def quests : Table := [
  (.text "quest_main_prologue", prologue),
  (.text "quest_main_cargo_delivery", cargoDelivery),
  (.text "quest_main_artifact_mystery", artifactMystery),
  (.text "quest_alliance_supply_run", supplyRun),
  (.text "quest_syndicate_valuable_cargo", valuableCargo),
  (.text "quest_independent_free_agent", freeAgent),
  (.text "quest_alliance_alliance_trust", allianceTrust),
  (.text "quest_syndicate_syndicate_interest", syndicateInterest),
  (.text "quest_syndicate_syndicate_rising", syndicateRising)]

end Questline.Story
