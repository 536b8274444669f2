import Questline.Story.Authoring

/-! The built-in dialogues with the ship's engineer. -/

namespace Questline.Story

open Authoring

def meetEngineer : Value :=
  graph "dialogue" "Getting to Know Your Engineer"
    "Learn more about your engineer crew member's background and expertise."
    "crew" "engineer-intro"
    [
      ("speaker", "engineer"),
      ("repeatable", true),
      ("requirements", .list [needsRelationship "engineer" "Neutral", needsPresence "ship"])] [
      node "engineer-intro"
        ("Need something, Captain? I was just calibrating the propulsion systems. There's " ++
         "always something to tinker with on a ship like this.")
        [] [
          choice "ask-background"
            "How did you end up as an engineer in deep space?"
            (toNode "engineer-background")
            [] [],
          choice "ask-expertise"
            "What systems on the ship are you specialized in?"
            (toNode "engineer-expertise")
            [] [],
          choice "ask-opinion"
            "What do you think of our mission so far?"
            (toNode "engineer-opinion")
            [] [],
          choice "end-convo"
            "I should let you get back to work."
            toEnd
            [] []],
      node "engineer-background"
        ("I grew up on a mining colony in the Antares sector. Not much to do there except " ++
         "learn how machines work or breathe rock dust. I chose the machines. Got my " ++
         "certification at the Alliance Technical Institute and never looked back.")
        [] [
          choice "ask-family"
            "Do you have family back in the Antares sector?"
            (toNode "engineer-family")
            [] [relationship "engineer" 2],
          choice "ask-expertise-from-background"
            "Did your mining colony experience influence your specialty?"
            (toNode "engineer-expertise")
            [] [],
          choice "return-to-intro"
            "Interesting background. Let me ask you something else."
            (toNode "engineer-intro")
            [] []],
      node "engineer-family"
        ("Parents are still there, running a supply depot. My sister joined the Alliance " ++
         "Science Division - studying xenobotany on some garden world. We keep in touch " ++
         "when comms allow it.")
        [] [
          choice "express-sympathy"
            "It must be hard being away from them for so long."
            (toNode "engineer-sympathy-response")
            [] [relationship "engineer" 3],
          choice "return-to-intro"
            "Let me ask you something else."
            (toNode "engineer-intro")
            [] []],
      node "engineer-sympathy-response"
        ("Yeah... it is. But that's the life we choose out here, isn't it? I appreciate " ++
         "you asking, Captain. Not everyone bothers to know the person behind the toolkit.")
        [] [
          choice "return-to-intro"
            "A good crew is like family too. Let me ask you something else."
            (toNode "engineer-intro")
            [] [relationship "engineer" 2]],
      node "engineer-expertise"
        ("I'm what they call a systems integration specialist. Propulsion, power " ++
         "distribution, environmental controls - I make sure they all talk to each other " ++
         "properly. I've increased our fuel efficiency by 12% since joining the crew.")
        [] [
          choice "praise-work"
            "That 12% could save our lives someday. Your work is essential."
            (toNode "engineer-praise-response")
            [] [relationship "engineer" 5],
          choice "suggest-upgrade"
            "Any upgrades you'd recommend for our current mission?"
            (toNode "engineer-upgrade-suggestions")
            [] [],
          choice "return-to-intro"
            "Let me ask you something else."
            (toNode "engineer-intro")
            [] []],
      node "engineer-praise-response"
        ("Thanks, Captain. That... actually means a lot. Sometimes in engineering, the " ++
         "best work is the disaster that never happens.")
        [] [
          choice "return-to-intro"
            "You'll always have my appreciation. Let me ask you something else."
            (toNode "engineer-intro")
            [] [relationship "engineer" 1]],
      node "engineer-upgrade-suggestions"
        ("With what we're facing? I'd prioritize shield harmonics. The radiation in this " ++
         "sector is unlike anything in our databases. Would need about six hours in the " ++
         "shield control bay to implement it.")
        [] [
          choice "approve-upgrade"
            "Make it happen. I'll have someone cover your regular duties."
            (toNode "engineer-approve-response")
            [] [relationship "engineer" 4, setFlag "shieldUpgradeApproved"],
          choice "deny-upgrade"
            "We can't spare you from regular maintenance right now. Maybe later."
            (toNode "engineer-deny-response")
            [] [relationship "engineer" (-2)]],
      node "engineer-approve-response"
        ("I won't let you down, Captain. I'll have those shields upgraded before your " ++
         "next sleep cycle.")
        [] [
          choice "return-to-intro"
            "That's what a good captain does. Let me ask you something else."
            (toNode "engineer-intro")
            [] []],
      node "engineer-deny-response"
        ("Understood, Captain. Just... hope we don't regret the delay when we hit the " ++
         "next radiation belt.")
        [] [
          choice "return-to-intro"
            "We'll prioritize it when we can. Let me ask you something else."
            (toNode "engineer-intro")
            [] []],
      node "engineer-opinion"
        ("From a technical perspective, this ship is being pushed to its limits. The " ++
         "ancient artifacts we're chasing give off energy signatures I've never seen " ++
         "before.")
        [] [
          choice "ask-danger"
            "Are these artifacts dangerous to the ship?"
            (toNode "engineer-danger-assessment")
            [needsFlag "discoveredArtifact"] [],
          choice "return-to-intro"
            "Interesting perspective. Let me ask you something else."
            (toNode "engineer-intro")
            [] []],
      node "engineer-danger-assessment"
        ("Dangerous? Potentially. The artifact in the cargo bay caused a power surge last " ++
         "week that fried two backup relays. I've designed a containment field that " ++
         "should help, if you approve.")
        [] [
          choice "approve-protectors"
            "Do it. Ship safety is paramount."
            (toNode "engineer-intro")
            [] [relationship "engineer" 3, setFlag "surgeProtectionInstalled"],
          choice "return-to-intro"
            "I'll think about it. Let me ask you something else."
            (toNode "engineer-intro")
            [] []]]

def heartToHeart : Value :=
  graph "dialogue" "A Quiet Moment"
    "Your engineer has something on their mind."
    "crew" "engineer-confides"
    [
      ("speaker", "engineer"),
      ("requirements", .list [needsRelationship "engineer" "Friendly"])] [
      node "engineer-confides"
        ("Captain, got a minute? I've been getting messages from the Syndicate. They want " ++
         "the schematics for our shield harmonics. I told them no, but they know where my " ++
         "family lives.")
        [] [
          choice "promise-protection"
            "Nobody threatens my crew. We'll deal with this together."
            toEnd
            [] [
              relationship "engineer" 10,
              reputation "Syndicate" (-5),
              setFlag "engineerProtected"],
          choice "suggest-cooperation"
            "Maybe give them something harmless. Keep them off your back."
            toEnd
            [needsReputation "Syndicate" 10] [
              relationship "engineer" (-10),
              reputation "Syndicate" 10]]]

def dialogues : Table := [
  (.text "get_to_know_engineer", meetEngineer),
  (.text "engineer_heart_to_heart", heartToHeart)]

end Questline.Story
